import TokenClient.Proofs.Session.Invariant

/-!
# Closed sessions

A session that has been closed stays closed. It has no handle under which the module could be asked, so no
call reaches the module, and nothing changes any more. Calls fail, and they say that the session is closed,
with one exception: whether the session may write is still known if it was once asked.

The main result (`Session.closed_exact`) speaks of all runs with a close in them, whatever the module said
to the close, and of all requests after that.
-/

namespace TokenClient.Session

variable {session after : Session} {request : Request} {exchanges : List Exchange} {events : List Event}

/-- A failure that says that the session is closed. -/
def SaysClosed {α : Type} (result : Except Error α) : Prop :=
  ∃ e, result = .error e ∧ e.kind = .sessionClosed ∧ e.rv = Rv.sessionHandleInvalid

private theorem saysClosed_sessionClosed {α : Type} : SaysClosed (.error .sessionClosed : Except Error α) :=
  ⟨_, rfl, rfl, rfl⟩

/-- The request by which it became known whether the session may write. -/
def Event.LearnsRw (event : Event) : Prop := event.request = .isRw ∧ event.answer.result.isOk = true

/-! ## Calls on a closed session -/

/-- A call that fails at once since the session is closed. -/
def RefusesClosed {α : Type} (session : Session) (action : Action α) : Prop :=
  action = session.refuse .sessionClosed

/-- A refusal stays one when nothing is written besides. -/
theorem RefusesClosed.plainly {answer : Except Error request.Result → request.Answer}
    {action : Action request.Result} (refuses : session.RefusesClosed action)
    (same : ∀ result, (answer result).result = result) :
    ∃ value, Session.plainly answer action = .done (value, session) ∧
      value.result = .error .sessionClosed := by
  rw [refuses]
  exact ⟨answer (.error .sessionClosed), rfl, same _⟩

/-- A closed session forwards nothing. -/
private theorem forward_of_closed (closed : session.handle = none) (command : Command) :
    session.RefusesClosed (session.forward command) := by
  simp [RefusesClosed, forward, openHandle_of_closed closed]

private theorem readAttribute_of_closed (closed : session.handle = none) (object type : Code) :
    session.RefusesClosed (session.readAttribute object type) := by
  simp [RefusesClosed, readAttribute, openHandle_of_closed closed]

private theorem readAttributes_of_closed (closed : session.handle = none) (object : Code) (types : List Code) :
    session.RefusesClosed (session.readAttributes object types) := by
  simp [RefusesClosed, readAttributes, openHandle_of_closed closed]

private theorem startFind_of_closed (closed : session.handle = none) (template : Template) :
    session.RefusesClosed (session.startFind template) := by
  simp [RefusesClosed, startFind, openHandle_of_closed closed]

/-- What is made of the failure of a call is the same failure. -/
theorem RefusesClosed.map {α β : Type} {action : Action α}
    {f : Except Error α × Session → Except Error β × Session} (refuses : session.RefusesClosed action)
    (passes : f (.error .sessionClosed, session) = (.error .sessionClosed, session)) :
    session.RefusesClosed (action.map f) := by
  rw [refuses]
  exact congrArg Program.done passes

/-- A message step on a closed session finds no message that it could end. -/
theorem Sound.message_of_closed (sound : session.Sound) (closed : session.handle = none)
    (step : MessageStep) :
    session.perform (.message step) = .done (⟨.error .sessionClosed, step.untouched⟩, session) := by
  have refused : session.admitMessage step = .error .sessionClosed := by
    simp [admitMessage, openHandle_of_closed closed]
  have unchanged : session.afterMessage step false = session := by
    have hidle := sound.idle_of_closed closed
    have htracker : session.tracker.afterMessage step.place false = session.tracker := by
      rw [hidle]
      cases step.place <;> rfl
    simp only [Session.afterMessage, htracker]
  rw [perform_message_of_refused refused, unchanged]

/-- On a closed session a request fails at once, and leaves the session as it is. -/
theorem Sound.perform_of_closed (sound : session.Sound) (closed : session.handle = none)
    (unknown : request = .isRw → session.knownRw = none) :
    ∃ answer, session.perform request = .done (answer, session) ∧
      answer.result = .error .sessionClosed := by
  unfold Session.perform
  cases request with
  | message step => exact ⟨_, sound.message_of_closed closed step, rfl⟩
  | handle => exact ⟨⟨session.openHandle, ()⟩, rfl, openHandle_of_closed closed⟩
  | isRw =>
    refine RefusesClosed.plainly ?_ fun _ => rfl
    rw [isRw, unknown rfl]
    exact (forward_of_closed closed .getSessionInfo).map rfl
  | setOperationState _ _ _ | login _ _ | cancel _ =>
    exact ((forward_of_closed closed _).map rfl).plainly fun _ => rfl
  | close | find _ | endFind | randomBytes _ | start _ _ | step _ =>
    refine RefusesClosed.plainly ?_ fun _ => rfl
    simp [RefusesClosed, close, find, endFind, randomBytes, Session.start, Session.step,
      openHandle_of_closed closed]
  | readAttribute _ _ => exact (readAttribute_of_closed closed _ _).plainly fun _ => rfl
  | readAttributes _ _ => exact (readAttributes_of_closed closed _ _).plainly fun _ => rfl
  | readBool _ _ | readNumber _ _ | readBytes _ _ | readText _ _ | readBigNat _ _ =>
    exact ((readAttribute_of_closed closed _ _).map rfl).plainly fun _ => rfl
  | readNumbers _ _ | readBytesList _ _ | readTexts _ _ =>
    exact ((readAttributes_of_closed closed _ _).map rfl).plainly fun _ => rfl
  | startFind _ => exact (startFind_of_closed closed _).plainly fun _ => rfl
  | findAll template =>
    refine RefusesClosed.plainly ?_ fun _ => rfl
    rw [RefusesClosed, findAll, startFind_of_closed closed template]
    rfl
  | _ =>
    refine RefusesClosed.plainly ?_ fun _ => rfl
    exact forward_of_closed closed _

/-! ## Runs with a close in them -/

/-- A closed session talks to nobody. -/
theorem Dialogue.eq_of_closed (dialogue : session.Dialogue exchanges after)
    (closed : session.handle = none) : after = session := by
  cases dialogue with
  | nil => rfl
  | cons isOpen _ _ =>
    rw [closed] at isOpen
    cases isOpen

/-- No request opens a closed session again. -/
theorem closed_of_perform {answer : request.Answer} (closed : session.handle = none)
    (plays : (session.perform request).Plays exchanges (answer, after)) : after.handle = none := by
  obtain dialogue | ⟨-, -, _, rfl⟩ | ⟨-, _, -, -, rfl⟩ := perform_dialogue plays
  · rw [dialogue.eq_of_closed closed]
    exact closed
  · exact closed
  · exact closed

/-- Closing closes the session, whatever the token says. -/
private theorem closed_of_close {answer : Request.close.Answer}
    (plays : (session.perform .close).Plays exchanges (answer, after)) : after.handle = none := by
  cases hhandle : session.handle with
  | none => exact closed_of_perform hhandle plays
  | some handle =>
    unfold perform at plays
    obtain ⟨result, hplays, -⟩ := plays_plainly.1 plays
    rw [close, openHandle_of_open hhandle] at hplays
    obtain ⟨_, -, heq⟩ := Program.plays_map.1 hplays
    cases heq
    rfl

/-- After a run in which the session was closed it is closed. -/
theorem Run.closed (run : session.Run events after) (close : ∃ event ∈ events, event.request = .close) :
    after.handle = none := by
  induction run with
  | nil =>
    obtain ⟨_, hmem, -⟩ := close
    cases hmem
  | @cons session middle after request exchanges answer events plays rest ih =>
    by_cases hrequest : request = .close
    · subst hrequest
      exact rest.keeps (P := fun s => s.handle = none) closed_of_perform (closed_of_close plays)
    · obtain ⟨event, hmem, hevent⟩ := close
      obtain rfl | hlater := List.mem_cons.1 hmem
      · exact absurd hevent hrequest
      · exact ih ⟨event, hlater, hevent⟩

/-- What is known of writing is known for good, and was learned from the module. -/
theorem knownRw_perform {answer : request.Answer}
    (plays : (session.perform request).Plays exchanges (answer, after)) :
    after.knownRw.isSome = true ↔
      session.knownRw.isSome = true ∨ Event.LearnsRw ⟨request, exchanges, answer⟩ := by
  by_cases hrequest : request = .isRw
  · subst hrequest
    unfold perform at plays
    obtain ⟨result, hplays, rfl⟩ := plays_plainly.1 plays
    obtain ⟨-, rfl, remembered⟩ := plays_isRw hplays
    constructor
    · intro h
      cases result with
      | ok rw => exact .inr ⟨rfl, rfl⟩
      | error e => cases h
    · intro h
      have hok : result.isOk = true := h.elim remembered And.right
      cases result with
      | ok rw => rfl
      | error e => cases hok
  · have hsame : after.knownRw = session.knownRw := by
      obtain dialogue | ⟨-, heq, -⟩ | ⟨-, _, -, -, rfl⟩ := perform_dialogue plays
      · exact dialogue.knownRw
      · exact absurd heq hrequest
      · rfl
    rw [hsame]
    exact ⟨.inl, fun h => h.elim id fun learns => absurd learns.1 hrequest⟩

/-- A session knows whether it can write iff it knew before or learned it in the run. -/
theorem Run.knownRw (run : session.Run events after) :
    after.knownRw.isSome = true ↔
      session.knownRw.isSome = true ∨ ∃ event ∈ events, event.LearnsRw := by
  induction run with
  | nil => simp
  | cons plays _ ih =>
    rw [ih, knownRw_perform plays]
    simp only [List.mem_cons, exists_eq_or_imp, or_assoc]

/-- A session that is asked whether it may write, and is then closed. -/
theorem run_isRw_close (token : Token) (handle : Code) (info : SessionInfo) :
    (opened token handle).Run
      [⟨.isRw, [⟨.inSession handle .getSessionInfo, ⟨.ok info, ()⟩⟩], ⟨.ok info.isRw, ()⟩⟩,
        ⟨.close, [⟨.inSession handle .closeSession, ⟨.ok (), ()⟩⟩], ⟨.ok (), ()⟩⟩]
      ⟨token, none, some info.isRw, .idle⟩ :=
  .cons (.ask _ (.done _)) (.cons (.ask _ (.done _)) (.nil _))

/-- After a close all requests are answered without the module and without a change of the session, and
they fail since the session is closed. Only whether it may write is still answered, if that has been
learned before. -/
theorem closed_exact {token : Token} {handle : Code} (run : (opened token handle).Run events session)
    (close : ∃ event ∈ events, event.request = .close) (request : Request) :
    ∃ answer, session.perform request = .done (answer, session) ∧
      (SaysClosed answer.result ↔ ¬ (request = .isRw ∧ ∃ event ∈ events, event.LearnsRw)) := by
  have closed := run.closed close
  have sound := Reachable.sound ⟨token, handle, events, run⟩
  have hknown : session.knownRw.isSome = true ↔ ∃ event ∈ events, event.LearnsRw := by
    simpa [opened] using run.knownRw
  -- Whether the session may write is the one thing it keeps, so this request is answered apart.
  by_cases remembered : request = .isRw ∧ ∃ event ∈ events, event.LearnsRw
  · obtain ⟨rfl, learns⟩ := id remembered
    obtain ⟨rw, hrw⟩ := Option.isSome_iff_exists.1 (hknown.2 learns)
    refine ⟨⟨.ok rw, ()⟩, ?_, ?_⟩
    · simp only [perform, isRw, hrw]
      rfl
    · constructor
      · rintro ⟨e, failed, -⟩
        cases failed
      · intro h
        exact absurd remembered h
  · have unknown : request = .isRw → session.knownRw = none := by
      intro hrequest
      rw [← Option.not_isSome_iff_eq_none, hknown]
      exact fun learns => remembered ⟨hrequest, learns⟩
    obtain ⟨answer, hperform, failed⟩ := sound.perform_of_closed closed unknown
    refine ⟨answer, hperform, ?_⟩
    rw [failed]
    exact ⟨fun _ => remembered, fun _ => saysClosed_sessionClosed⟩

/-- A logout after the close. -/
theorem closed_exact_logout :
    ∃ answer, (⟨.bare 1, none, some true, .idle⟩ : Session).perform .logout =
        .done (answer, ⟨.bare 1, none, some true, .idle⟩) ∧ SaysClosed answer.result := by
  have run := run_isRw_close (.bare 1) 7 ⟨1, 0, Flag.rwSession, 0⟩
  obtain ⟨answer, hperform, fails⟩ :=
    closed_exact run ⟨_, List.mem_cons_of_mem _ List.mem_cons_self, rfl⟩ .logout
  exact ⟨answer, hperform, fails.2 fun h => by cases h.1⟩

/-- Not all requests after a close fail. -/
theorem not_closed_all :
    ¬ ∀ (token : Token) (handle : Code) (events : List Event) (session : Session) (request : Request),
      (opened token handle).Run events session → (∃ event ∈ events, event.request = .close) →
        ∃ answer, session.perform request = .done (answer, session) ∧ SaysClosed answer.result := by
  intro all
  have run := run_isRw_close (.bare 1) 7 ⟨1, 0, Flag.rwSession, 0⟩
  obtain ⟨answer, hperform, e, failed, -⟩ :=
    all _ _ _ _ .isRw run ⟨_, List.mem_cons_of_mem _ List.mem_cons_self, rfl⟩
  cases hperform
  cases failed

end TokenClient.Session
