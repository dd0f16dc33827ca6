import TokenClient.Proofs.Session.Relay

/-!
# What a request does to a session

Whatever is asked of a session, it changes in one of three ways only.

- An exchange with the module changes it. A dialogue is a sequence of exchanges, each of a command that the
  tracker lets through, and each taken account of before the next (`Session.Dialogue`).
- A message step that is refused ends the message, if it is a part of one, without any exchange.
- Whether the session may write is remembered once the module has been asked (`Session.knownRw`).

The main result says that there is nothing else (`Session.perform_dialogue`). Every invariant of a session
is therefore a matter of single exchanges and of refused message steps.
-/

namespace TokenClient.Session

/-- The exchanges can take place one after the other, each on an open session whose tracker lets it
through, and lead from the first session to the second. -/
inductive Dialogue : Session → List Exchange → Session → Prop
  | nil (session : Session) : Dialogue session [] session
  | cons {session after : Session} {handle : Code} {command : Command}
      {reply : Reply (.inSession handle command)} {exchanges : List Exchange} :
      session.handle = some handle → session.tracker.Admits command →
        Dialogue (session.answered command reply.result) exchanges after →
          Dialogue session (⟨.inSession handle command, reply⟩ :: exchanges) after

variable {α β : Type} {session middle after : Session} {exchanges : List Exchange} {handle : Code}

/-- Dialogues are played one after the other. -/
theorem Dialogue.append {later : List Exchange} (first : session.Dialogue exchanges middle)
    (rest : middle.Dialogue later after) : session.Dialogue (exchanges ++ later) after := by
  induction first with
  | nil => exact rest
  | cons isOpen admits _ ih => exact .cons isOpen admits (ih rest)

/-- No exchange of a dialogue has an effect on what is known of writing. -/
theorem Dialogue.knownRw (dialogue : session.Dialogue exchanges after) :
    after.knownRw = session.knownRw := by
  induction dialogue with
  | nil => rfl
  | cons _ _ _ ih => rw [ih, knownRw_answered]

/-- One admitted command and its reply are a dialogue. -/
theorem Dialogue.single {command : Command} (reply : Reply (.inSession handle command))
    (isOpen : session.handle = some handle) (admits : session.tracker.Admits command) :
    session.Dialogue [⟨.inSession handle command, reply⟩] (session.answered command reply.result) :=
  .cons isOpen admits (.nil _)

/-- Whatever a call on a session comes to, its exchanges are a dialogue that accounts for the session
after it. -/
def Converses (session : Session) (action : Program (β × Session)) : Prop :=
  ∀ exchanges value after, action.Plays exchanges (value, after) →
    session.Dialogue exchanges after

private theorem converses_done (session : Session) (value : β) : session.Converses (.done (value, session)) := by
  intro exchanges _ after plays
  obtain ⟨rfl, heq⟩ := Program.plays_done.1 plays
  cases heq
  exact .nil _

/-- A call that looks only at the value leaves the dialogue as it is. -/
theorem Converses.map {γ : Type} {action : Program (β × Session)} (converses : session.Converses action)
    {f : β × Session → γ × Session} (same : ∀ x, (f x).2 = x.2) :
    session.Converses (action.map f) := by
  intro exchanges _ after plays
  obtain ⟨⟨value, middle⟩, hplays, heq⟩ := Program.plays_map.1 plays
  have h := same (value, middle)
  rw [← heq] at h
  simp only at h
  rw [h]
  exact converses _ _ _ hplays

/-- An action converses also when nothing is written besides its result. -/
theorem Converses.plainly {answer : Except Error α → β} {action : Action α}
    (converses : session.Converses action) : session.Converses (Session.plainly answer action) :=
  converses.map fun _ => rfl

/-- An action that relays one command is a dialogue of at most one exchange. -/
private theorem Relays.converses {command : Command} {outcome : Except Error command.Result → Except Error α}
    {action : Action α} (relays : session.Relays command outcome action) : session.Converses action := by
  intro exchanges result after plays
  obtain ⟨rfl, rfl⟩ | ⟨handle, reply, isOpen, admits, rfl, -, rfl⟩ := relays _ _ _ plays
  · exact .nil _
  · exact .single reply isOpen admits

/-- A forwarded command is a dialogue when the tracker admits it and the reply leaves the session as it is. -/
private theorem converses_forward (command : Command) (admits : session.tracker.Admits command)
    (quiet : ∀ result, session.answered command result = session) :
    session.Converses (session.forward command) :=
  (relays_forward command admits quiet).converses

/-- After the question whether a session may write, what is known is what was answered. -/
theorem plays_isRw {result : Except Error Bool} (plays : session.isRw.Plays exchanges (result, after)) :
    session.Dialogue exchanges session ∧ after = { session with knownRw := result.toOption } ∧
      (session.knownRw.isSome = true → result.isOk = true) := by
  unfold isRw at plays
  cases hknown : session.knownRw with
  | some rw =>
    rw [hknown] at plays
    obtain ⟨rfl, heq⟩ := Program.plays_done.1 plays
    cases heq
    refine ⟨.nil _, ?_, fun _ => rfl⟩
    rw [Except.toOption, ← hknown]
  | none =>
    rw [hknown] at plays
    obtain ⟨⟨info, middle⟩, hinfo, heq⟩ := Program.plays_map.1 plays
    have dialogue := converses_forward .getSessionInfo trivial (fun _ => rfl) _ _ _ hinfo
    obtain rfl := eq_of_plays_forward hinfo
    cases info with
    | ok info =>
      cases heq
      exact ⟨dialogue, rfl, fun h => by cases h⟩
    | error e =>
      cases heq
      refine ⟨dialogue, ?_, fun h => by cases h⟩
      rw [Except.toOption, ← hknown]

/-! ## Reads -/

/-- A single read is one exchange, and the tracker takes no notice of it. -/
theorem plays_readOne {object type : Code} {absence : Absence}
    {outcome : Except Error Attribute} (isOpen : session.handle = some handle)
    (plays : (session.readOne handle object absence type).Plays exchanges outcome) :
    session.Dialogue exchanges session := by
  obtain ⟨reply, rest, rfl, hrest⟩ := Program.plays_ask.1 plays
  obtain ⟨rfl, -⟩ := Program.plays_done.1 hrest
  exact .single reply isOpen trivial

/-- Single reads one after the other are a dialogue. -/
private theorem plays_readEach {object : Code} {types : List Code}
    {outcomes : List (Except Error Attribute)} (isOpen : session.handle = some handle)
    (plays : (session.readEach handle object types).Plays exchanges outcomes) :
    session.Dialogue exchanges session := by
  induction types generalizing exchanges outcomes with
  | nil =>
    obtain ⟨rfl, -⟩ := Program.plays_done.1 plays
    exact .nil _
  | cons type types ih =>
    obtain ⟨first, rest, outcome, rfl, hfirst, hrest⟩ := Program.plays_bind.1 plays
    obtain ⟨others, hothers, rfl⟩ := Program.plays_map.1 hrest
    exact (plays_readOne isOpen hfirst).append (ih hothers)

private theorem converses_readAttribute (session : Session) (object type : Code) :
    session.Converses (session.readAttribute object type) := by
  unfold readAttribute
  split
  next e _ => exact converses_done session _
  next handle h =>
    intro exchanges result after plays
    obtain ⟨outcome, hplays, heq⟩ := Program.plays_map.1 plays
    cases heq
    exact plays_readOne (openHandle_eq_ok_iff.1 h) hplays

private theorem converses_readAttributes (session : Session) (object : Code) (types : List Code) :
    session.Converses (session.readAttributes object types) := by
  unfold readAttributes
  split
  next e _ => exact converses_done session _
  next handle h =>
    have isOpen := openHandle_eq_ok_iff.1 h
    intro exchanges result after plays
    obtain ⟨reply, rest, rfl, hrest⟩ := Program.plays_ask.1 plays
    have hbatch := Dialogue.single reply isOpen trivial
    split at hrest
    next hreply =>
      obtain ⟨rfl, heq⟩ := Program.plays_done.1 hrest
      cases heq
      exact hbatch
    next e hreply =>
      obtain ⟨outcomes, hplays, heq⟩ := Program.plays_map.1 hrest
      cases heq
      exact hbatch.append (plays_readEach isOpen hplays)

private theorem converses_valueOf (accessor : Attribute → Except Error (Option α)) (session : Session)
    (object type : Code) : session.Converses (valueOf accessor session object type) :=
  (converses_readAttribute session object type).map fun _ => rfl

private theorem converses_valuesOf (accessor : Template → Code → Except Error (Option α)) (session : Session)
    (object : Code) (types : List Code) :
    session.Converses (valuesOf accessor session object types) :=
  (converses_readAttributes session object types).map fun _ => rfl

/-! ## Message steps -/

/-- A message step is admitted iff the session is open and the tracker lets it pass. -/
theorem admitMessage_eq_ok_iff {step : MessageStep} :
    session.admitMessage step = .ok handle ↔
      session.handle = some handle ∧
        session.tracker.checkMessage step.operation step.place = .ok () := by
  unfold admitMessage openHandle
  cases session.handle with
  | none => simp
  | some opened =>
    cases session.tracker.checkMessage step.operation step.place with
    | error refusal =>
      show Except.error refusal.error = _ ↔ _
      simp
    | ok value =>
      show Except.ok opened = _ ↔ _
      simp

/-- A message step is one exchange, or it is refused without any. -/
theorem plays_message {step : MessageStep} {value : Except Error step.Result × step.Written}
    (plays : (session.message step).Plays exchanges (value, after)) :
    session.Dialogue exchanges after ∨
      exchanges = [] ∧ (∃ e, session.admitMessage step = .error e) ∧
        after = session.afterMessage step false := by
  unfold Session.message at plays
  split at plays
  next e hadmitted =>
    obtain ⟨rfl, heq⟩ := Program.plays_done.1 plays
    cases heq
    exact .inr ⟨rfl, ⟨e, hadmitted⟩, rfl⟩
  next handle hadmitted =>
    obtain ⟨reply, rest, rfl, hrest⟩ := Program.plays_ask.1 plays
    obtain ⟨rfl, heq⟩ := Program.plays_done.1 hrest
    cases heq
    obtain ⟨isOpen, hcheck⟩ := admitMessage_eq_ok_iff.1 hadmitted
    exact .inl (.single reply isOpen hcheck)

/-- A message step that may come now is put to the module. -/
theorem perform_message_of_admitted {step : MessageStep}
    (admitted : session.admitMessage step = .ok handle) :
    session.perform (.message step) =
      .ask (.inSession handle (.message step)) fun reply =>
        .done (⟨settle step.verifies reply.result, reply.written⟩,
          session.afterMessage step reply.result.isOk) := by
  show (session.message step).map _ = _
  unfold Session.message
  rw [admitted]
  rfl

/-- An admitted message step is one exchange. -/
theorem plays_message_of_admitted {step : MessageStep} (admitted : session.admitMessage step = .ok handle)
    (reply : Reply (.inSession handle (.message step))) :
    (session.perform (.message step)).Plays [⟨.inSession handle (.message step), reply⟩]
      (⟨settle step.verifies reply.result, reply.written⟩,
        session.afterMessage step reply.result.isOk) := by
  rw [perform_message_of_admitted admitted]
  exact .ask reply (.done _)

/-- A message step that may not come now fails without the module. -/
theorem perform_message_of_refused {step : MessageStep} {e : Error}
    (refused : session.admitMessage step = .error e) :
    session.perform (.message step) =
      .done (⟨.error e, step.untouched⟩, session.afterMessage step false) := by
  show (session.message step).map _ = _
  unfold Session.message
  rw [refused]
  rfl

/-! ## Searches -/

/-- Putting back the cursor a session has changes nothing. -/
theorem withCursor_of_cursor {cursor : FindCursor} (h : session.tracker.cursor = some cursor) :
    session.withCursor cursor = session := by
  simp only [withCursor, ← h]

/-- Collecting handles only moves the cursor on. -/
theorem dialogue_collect {cursor : FindCursor} {found : Except Error (List Code)}
    (isOpen : session.handle = some handle) (active : session.tracker.active.contains .find = true)
    (hcursor : session.tracker.cursor = some cursor) (fresh : cursor.exhausted = false)
    (plays : (collect handle cursor).Plays exchanges found) :
    ∃ last, session.Dialogue exchanges (session.withCursor last) := by
  -- Along the recursion of the program, with the session that has the cursor so far.
  fun_induction collect handle cursor generalizing session exchanges with
  | case1 cursor ih =>
    obtain ⟨reply, rest, rfl, hrest⟩ := Program.plays_ask.1 plays
    have admits : session.tracker.Admits (.findObjects batchSize) :=
      ⟨(Tracker.checkActive_eq_ok_iff _ _).2 active, cursor, hcursor, by simp [fresh]⟩
    split at hrest
    next e hreply =>
      obtain ⟨rfl, -⟩ := Program.plays_done.1 hrest
      have h := Dialogue.single reply isOpen admits
      simp only [hreply, answered, Tracker.answered] at h
      exact ⟨cursor, by rwa [withCursor_of_cursor hcursor]⟩
    next batch hreply =>
      have hanswered : session.answered (.findObjects batchSize) reply.result =
          session.withCursor (cursor.advance batchSize batch) := by
        have room : HasRoom FindCursor.handleSize batchSize.toNat := by decide
        simp only [hreply, answered, Tracker.answered, hcursor, Option.map_some, FindCursor.after_of_room room]
        rfl
      split at hrest
      next hempty =>
        obtain ⟨rfl, -⟩ := Program.plays_done.1 hrest
        have h := Dialogue.single reply isOpen admits
        rw [hanswered] at h
        exact ⟨_, h⟩
      next hnew =>
        have hfresh : (cursor.advance batchSize batch).exhausted = false := by
          simp [FindCursor.advance, fresh, hnew]
        obtain ⟨last, h⟩ := @ih batch hnew (session.withCursor _) _ isOpen active rfl hfresh hrest
        refine ⟨last, .cons isOpen admits ?_⟩
        rw [hanswered]
        exact h

/-- A search that has started is open, and its cursor is at the beginning. -/
theorem started_of_startFind {template : Template}
    (plays : (session.startFind template).Plays exchanges (.ok (), after)) :
    ∃ handle, after.handle = some handle ∧ after.tracker.active.contains .find = true ∧
      after.tracker.cursor = some .start := by
  unfold startFind at plays
  split at plays
  next e _ => cases (Program.plays_done.1 plays).2
  next handle h =>
    split at plays
    next refusal _ => cases (Program.plays_done.1 plays).2
    next _ =>
      obtain ⟨result, -, heq⟩ := Program.plays_map.1 plays
      cases result with
      | error e => cases heq
      | ok value =>
        cases heq
        exact ⟨handle, openHandle_eq_ok_iff.1 h, by simp, rfl⟩

/-- The end of a search takes place whatever the cursor has come to. -/
theorem converses_endFind_withCursor (isOpen : session.handle = some handle) (cursor : FindCursor) :
    (session.withCursor cursor).Converses session.endFind := by
  unfold endFind
  rw [openHandle_of_open isOpen]
  apply Relays.converses
  exact relays_request isOpen trivial fun _ => rfl

private theorem converses_findAll (session : Session) (template : Template) :
    session.Converses (session.findAll template) := by
  intro exchanges result after plays
  unfold findAll at plays
  obtain ⟨first, rest, ⟨started, middle⟩, rfl, hstart, hrest⟩ := Program.plays_bind.1 plays
  have hfirst := (relays_startFind session template).converses _ _ _ hstart
  cases started with
  | error e =>
    obtain ⟨rfl, heq⟩ := Program.plays_done.1 hrest
    cases heq
    rwa [List.append_nil]
  | ok value =>
    obtain ⟨handle, isOpen, active, hcursor⟩ := started_of_startFind hstart
    simp only [openHandle_of_open isOpen] at hrest
    obtain ⟨collecting, ending, found, rfl, hcollect, hend⟩ := Program.plays_bind.1 hrest
    obtain ⟨⟨ended, last⟩, hfinal, heq⟩ := Program.plays_map.1 hend
    cases heq
    obtain ⟨cursor, hcollected⟩ := dialogue_collect isOpen active hcursor rfl hcollect
    have hended := converses_endFind_withCursor isOpen cursor _ _ _ hfinal
    exact hfirst.append (hcollected.append hended)

/-! ## All requests -/

/-- Every request but a message step, and but for what is known of writing, is accounted for by its
exchanges alone. -/
theorem converses_perform (session : Session) {request : Request} (known : request ≠ .isRw)
    (other : ∀ step, request ≠ .message step) : session.Converses (session.perform request) := by
  unfold perform
  cases request with
  | isRw => exact absurd rfl known
  | message step => exact absurd rfl (other step)
  | handle => exact converses_done session _
  | close => exact (relays_close session).converses.plainly
  | setOperationState _ _ _ => exact (relays_setOperationState session _ _ _).converses.plainly
  | login _ _ => exact (relays_login session _ _).converses.plainly
  | readAttribute _ _ => exact (converses_readAttribute session _ _).plainly
  | readAttributes _ _ => exact (converses_readAttributes session _ _).plainly
  | readBool _ _ | readNumber _ _ | readBytes _ _ | readText _ _ | readBigNat _ _ =>
    exact (converses_valueOf _ session _ _).plainly
  | readNumbers _ _ | readBytesList _ _ | readTexts _ _ =>
    exact (converses_valuesOf _ session _ _).plainly
  | startFind _ => exact (relays_startFind session _).converses.plainly
  | find _ => exact (relays_find session _).converses.plainly
  | endFind => exact (relays_endFind session).converses.plainly
  | findAll _ => exact (converses_findAll session _).plainly
  | randomBytes _ => exact (relays_randomBytes session _).converses.plainly
  | start _ _ => exact (relays_start session _ _).converses.plainly
  | step _ => exact (relays_step session _).converses.plainly
  | cancel _ => exact (relays_cancel session _).converses.plainly
  | info | operationState | loginUser _ _ _ | logout | initPin _ | setPin _ _ | createObject _
  | copyObject _ _ | destroyObject _ | objectSize _ | setAttributes _ _ | generateKey _ _
  | generateKeyPair _ _ _ | wrapKey _ _ _ | unwrapKey _ _ _ _ | deriveKey _ _ _ | seedRandom _
  | functionStatus | cancelFunction =>
    apply Converses.plainly
    apply converses_forward
    · trivial
    · intro result
      rfl

/-- The exchanges of a request are a dialogue that accounts for the session after it, but for what is then
known of writing. Only a message step that is refused is none, and then the message may have ended. -/
theorem perform_dialogue {request : Request} {answer : request.Answer}
    (plays : (session.perform request).Plays exchanges (answer, after)) :
    session.Dialogue exchanges after ∨
      (session.Dialogue exchanges session ∧ request = .isRw ∧
        ∃ known, after = { session with knownRw := known }) ∨
      exchanges = [] ∧ ∃ step, request = .message step ∧ (∃ e, session.admitMessage step = .error e) ∧
        after = session.afterMessage step false := by
  cases request with
  | message step =>
    obtain ⟨⟨value, last⟩, hplays, heq⟩ := Program.plays_map.1 plays
    cases heq
    obtain h | ⟨rfl, herror, rfl⟩ := plays_message hplays
    · exact .inl h
    · exact .inr (.inr ⟨rfl, step, rfl, herror, rfl⟩)
  | isRw =>
    unfold perform at plays
    obtain ⟨result, hplays, -⟩ := plays_plainly.1 plays
    obtain ⟨dialogue, rfl, -⟩ := plays_isRw hplays
    exact .inr (.inl ⟨dialogue, rfl, _, rfl⟩)
  | _ => exact .inl (converses_perform session (by simp) (by simp) _ _ _ plays)

end TokenClient.Session
