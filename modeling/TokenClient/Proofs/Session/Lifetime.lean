import TokenClient.Proofs.Session.Closed
import TokenClient.Proofs.Session.History
import TokenClient.Proofs.Session.Origin

/-!
# The life of a handle

The module hands out a handle when a session is opened, and wants it back. A session is closed on request, or
when it is given up (`Session.release`), and the module may fail to close it. After a failed close the module
may have given the handle to somebody else, so a second close would be as wrong as none.

Up to the close all exchanges of a session use its handle, and the close is the last of them. This is shown
of single exchanges, which make up dialogues (`Dialogue.accounts`), then of requests and of runs
(`Run.accounts`). The main result (`Session.handle_spent_once`) is about a session from its opening to its
end: whatever was asked of it and whatever the module replied, the handle is closed once, at the end of all
exchanges.
-/

namespace TokenClient.Session

variable {session middle after : Session} {handle : Code} {exchanges later : List Exchange}
  {request : Request} {events : List Event}

/-- All exchanges use a handle, and none closes it. -/
def Uses (handle : Code) (exchanges : List Exchange) : Prop :=
  ∀ exchange ∈ exchanges, ∃ command, exchange.call = .inSession handle command ∧ command ≠ .closeSession

/-- The exchanges use a handle, and the last one closes it. -/
def Spends (handle : Code) (exchanges : List Exchange) : Prop :=
  ∃ before, Uses handle before ∧
    ∃ reply, exchanges = before ++ [⟨.inSession handle .closeSession, reply⟩]

private theorem uses_nil (handle : Code) : Uses handle [] := by
  intro exchange hmem
  cases hmem

/-- Uses of a handle follow one another. -/
theorem Uses.append (first : Uses handle exchanges) (rest : Uses handle later) :
    Uses handle (exchanges ++ later) := by
  intro exchange hmem
  rcases List.mem_append.1 hmem with hmem | hmem
  · exact first exchange hmem
  · exact rest exchange hmem

/-- Uses of a handle before it is spent. -/
private theorem Uses.spends (first : Uses handle exchanges) (rest : Spends handle later) :
    Spends handle (exchanges ++ later) := by
  obtain ⟨before, uses, reply, rfl⟩ := rest
  exact ⟨exchanges ++ before, first.append uses, reply, by rw [List.append_assoc]⟩

private theorem spends_close (handle : Code) (reply : Reply (.inSession handle .closeSession)) :
    Spends handle [⟨.inSession handle .closeSession, reply⟩] :=
  ⟨[], uses_nil handle, reply, rfl⟩

/-! ## What becomes of the handle -/

/-- Either the session still has its handle and the exchanges have only used it, or they have spent it. -/
def Accounts (handle : Code) (exchanges : List Exchange) (after : Session) : Prop :=
  Uses handle exchanges ∧ after.handle = some handle ∨ Spends handle exchanges ∧ after.handle = none

/-- A closed session talks to nobody. -/
private theorem Dialogue.silent_of_closed (dialogue : session.Dialogue exchanges after)
    (closed : session.handle = none) : exchanges = [] := by
  cases dialogue with
  | nil => rfl
  | cons isOpen _ _ =>
    rw [closed] at isOpen
    cases isOpen

/-- A handle is spent by a close, and by nothing else. -/
theorem Dialogue.accounts (dialogue : session.Dialogue exchanges after)
    (isOpen : session.handle = some handle) : Accounts handle exchanges after := by
  induction dialogue with
  | nil => exact .inl ⟨uses_nil handle, isOpen⟩
  | @cons session after opened command reply exchanges hopen _ rest ih =>
    obtain rfl : opened = handle := Option.some.inj (hopen.symm.trans isOpen)
    by_cases hclose : command = .closeSession
    · subst hclose
      have closed : (session.answered .closeSession reply.result).handle = none := rfl
      obtain rfl := rest.eq_of_closed closed
      obtain rfl := rest.silent_of_closed closed
      exact .inr ⟨spends_close opened reply, closed⟩
    · have first : Uses opened [⟨.inSession opened command, reply⟩] := by
        intro exchange hmem
        rw [List.mem_singleton.1 hmem]
        exact ⟨command, rfl, hclose⟩
      rcases ih ((handle_answered session hclose _).trans isOpen) with ⟨uses, still⟩ | ⟨spends, closed⟩
      · exact .inl ⟨first.append uses, still⟩
      · exact .inr ⟨first.spends spends, closed⟩

/-- Each request of an open session uses its handle and closes it at most once, last. -/
private theorem accounts_perform {answer : request.Answer} (isOpen : session.handle = some handle)
    (plays : (session.perform request).Plays exchanges (answer, after)) :
    Accounts handle exchanges after := by
  obtain dialogue | ⟨dialogue, -, _, rfl⟩ | ⟨rfl, _, -, -, rfl⟩ := perform_dialogue plays
  · exact dialogue.accounts isOpen
  · exact dialogue.accounts isOpen
  · exact .inl ⟨uses_nil handle, isOpen⟩

private theorem silent_of_closed {answer : request.Answer} (closed : session.handle = none)
    (plays : (session.perform request).Plays exchanges (answer, after)) : exchanges = [] := by
  obtain dialogue | ⟨dialogue, -, -⟩ | ⟨rfl, -⟩ := perform_dialogue plays
  · exact dialogue.silent_of_closed closed
  · exact dialogue.silent_of_closed closed
  · rfl

/-! ## Runs -/

/-- A closed session talks to nobody in a whole run. -/
private theorem Run.silent_of_closed (run : session.Run events after) (closed : session.handle = none) :
    history events = [] ∧ after.handle = none := by
  induction run with
  | nil => exact ⟨rfl, closed⟩
  | cons plays _ ih =>
    obtain ⟨hrest, hafter⟩ := ih (closed_of_perform closed plays)
    refine ⟨?_, hafter⟩
    rw [history, List.flatMap_cons]
    exact List.append_eq_nil_iff.2 ⟨Session.silent_of_closed closed plays, hrest⟩

/-- After a run the handle is still there, or the run has spent it. -/
theorem Run.accounts (run : session.Run events after) (isOpen : session.handle = some handle) :
    Accounts handle (history events) after := by
  induction run with
  | nil => exact .inl ⟨uses_nil handle, isOpen⟩
  | cons plays rest ih =>
    rw [history, List.flatMap_cons]
    rcases accounts_perform isOpen plays with ⟨uses, still⟩ | ⟨spends, closed⟩
    · rcases ih still with ⟨others, last⟩ | ⟨spends, closed⟩
      · exact .inl ⟨uses.append others, last⟩
      · exact .inr ⟨uses.spends spends, closed⟩
    · obtain ⟨hnil, hafter⟩ := rest.silent_of_closed closed
      rw [history] at hnil
      rw [hnil, List.append_nil]
      exact .inr ⟨spends, hafter⟩

/-- Only the request for it closes a session. -/
theorem close_of_spends {answer : request.Answer}
    (plays : (session.perform request).Plays exchanges (answer, after)) (spends : Spends handle exchanges) :
    request = .close := by
  obtain ⟨before, -, reply, rfl⟩ := spends
  exact (calls_perform session request).of_plays plays _ (List.mem_append_right _ List.mem_cons_self)

/-- A run leaves a session closed exactly if its close was requested. -/
theorem Run.closed_iff (run : session.Run events after) (isOpen : session.handle = some handle) :
    after.handle = none ↔ ∃ event ∈ events, event.request = .close := by
  constructor
  · intro closed
    induction run with
    | nil =>
      rw [isOpen] at closed
      cases closed
    | cons plays _ ih =>
      rcases accounts_perform isOpen plays with ⟨-, still⟩ | ⟨spends, -⟩
      · obtain ⟨event, hmem, hclose⟩ := ih still closed
        exact ⟨event, List.mem_cons_of_mem _ hmem, hclose⟩
      · exact ⟨_, List.mem_cons_self, close_of_spends plays spends⟩
  · exact run.closed

/-! ## From the opening to the end -/

private theorem plays_release_of_open (isOpen : session.handle = some handle)
    (plays : session.release.Plays exchanges ()) :
    ∃ reply, exchanges = [⟨.inSession handle .closeSession, reply⟩] := by
  rw [release, isOpen] at plays
  obtain ⟨_, hplays, -⟩ := Program.plays_map.1 plays
  obtain ⟨reply, rfl, -⟩ := Program.plays_request.1 hplays
  exact ⟨reply, rfl⟩

private theorem plays_release_of_closed (closed : session.handle = none)
    (plays : session.release.Plays exchanges ()) : exchanges = [] := by
  rw [release, closed] at plays
  exact (Program.plays_done.1 plays).1

/-- Nothing is left to do for a session that is closed already. -/
theorem silent_release_iff (plays : session.release.Plays exchanges ()) :
    exchanges = [] ↔ session.handle = none := by
  constructor
  · rintro rfl
    cases hhandle : session.handle with
    | none => rfl
    | some handle =>
      obtain ⟨reply, heq⟩ := plays_release_of_open hhandle plays
      cases heq
  · intro closed
    exact plays_release_of_closed closed plays

/-- A session is opened, anything is asked of it, and it is given up. The module is asked for a handle; then
all exchanges use this handle; then comes a single close, and nothing after it. The close has been requested,
or else it takes place when the session is given up. -/
theorem handle_spent_once {token : Token} {rw : Bool} {opening closing : List Exchange}
    (opens : (token.openSession rw).Plays opening (.ok session)) (run : session.Run events after)
    (gives : after.release.Plays closing ()) :
    ∃ handle flags, ∃ granted : Reply (.openSession token.slot flags),
      ∃ used, ∃ closed : Reply (.inSession handle .closeSession),
        opening ++ history events ++ closing =
          ⟨.openSession token.slot flags, granted⟩ :: used ++ [⟨.inSession handle .closeSession, closed⟩] ∧
        granted.result = .ok handle ∧ Uses handle used ∧
        (closing = [] ↔ ∃ event ∈ events, event.request = .close) := by
  obtain ⟨handle, flags, granted, rfl, hgranted, rfl⟩ := plays_openSession opens
  have isOpen : (opened token handle).handle = some handle := rfl
  have hclosing : closing = [] ↔ ∃ event ∈ events, event.request = .close := by
    rw [← run.closed_iff isOpen]
    exact silent_release_iff gives
  have spends : Spends handle (history events ++ closing) := by
    rcases run.accounts isOpen with ⟨uses, still⟩ | ⟨spends, closed⟩
    · obtain ⟨reply, rfl⟩ := plays_release_of_open still gives
      exact uses.spends (spends_close handle reply)
    · rw [plays_release_of_closed closed gives, List.append_nil]
      exact spends
  obtain ⟨used, uses, closed, heq⟩ := spends
  refine ⟨handle, flags, granted, used, closed, ?_, hgranted, uses, hclosing⟩
  rw [List.append_assoc, heq]
  rfl

/-- A session that is closed twice, the first time in vain, and asked to log out in between. -/
theorem handle_spent_once_failedClose :
    ∃ used, ∃ closed : Reply (.inSession 7 .closeSession),
      [⟨.openSession 1 Flag.serialSession, ⟨.ok 7, ()⟩⟩,
          ⟨.inSession 7 .closeSession, ⟨.error (.token Rv.functionFailed), ()⟩⟩] =
        (⟨.openSession 1 Flag.serialSession, ⟨.ok 7, ()⟩⟩ : Exchange) :: used ++
          [⟨.inSession 7 .closeSession, closed⟩] ∧ Uses 7 used := by
  have opens : ((Token.bare 1).openSession false).Plays
      [⟨.openSession 1 Flag.serialSession, ⟨.ok 7, ()⟩⟩] (.ok (opened (.bare 1) 7)) := .ask _ (.done _)
  have run : (opened (.bare 1) 7).Run
      [⟨.close, [⟨.inSession 7 .closeSession, ⟨.error (.token Rv.functionFailed), ()⟩⟩],
          ⟨.error (.token Rv.functionFailed), ()⟩⟩,
        ⟨.logout, [], ⟨.error .sessionClosed, ()⟩⟩, ⟨.close, [], ⟨.error .sessionClosed, ()⟩⟩]
      ⟨.bare 1, none, none, .idle⟩ :=
    .cons (.ask _ (.done _)) (.cons (.done _) (.cons (.done _) (.nil _)))
  obtain ⟨handle, flags, granted, used, closed, heq, hgranted, uses, -⟩ :=
    handle_spent_once opens run (.done ())
  cases (List.cons.inj heq).1
  cases hgranted
  exact ⟨used, closed, heq, uses⟩

end TokenClient.Session
