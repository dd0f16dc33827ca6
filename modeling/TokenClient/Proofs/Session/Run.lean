import TokenClient.Proofs.Module.Exchange
import TokenClient.Session.Request

/-!
# Runs of a session

A run is a sequence of requests to a session, each with what was asked of the module, what the module
replied and what the caller got (`Session.Run`). The module may reply anything. A session is reachable if
some run of a session just opened ends in it.

An invariant of all reachable sessions holds of those just opened and is kept by each request
(`Session.Reachable.of_kept`).
-/

namespace TokenClient

/-- The token in a slot, for a client that knows no vendor's codes. -/
def Token.bare (slot : Code) : Token := ⟨⟨none, .empty, .utf8⟩, slot⟩

namespace Session

/-- A session as it is when it has just been opened. -/
def opened (token : Token) (handle : Code) : Session := ⟨token, some handle, none, .idle⟩

/-- A request as it was carried out: the exchanges with the module, and the answer. -/
structure Event where
  request : Request
  exchanges : List Exchange
  answer : request.Answer

/-- The requests of the events, carried out one after the other, lead from the first session to the
second. -/
inductive Run : Session → List Event → Session → Prop
  | nil (session : Session) : Run session [] session
  | cons {session middle after : Session} {request : Request} {exchanges : List Exchange}
      {answer : request.Answer} {events : List Event} :
      (session.perform request).Plays exchanges (answer, middle) → Run middle events after →
        Run session (⟨request, exchanges, answer⟩ :: events) after

/-- A session that a run of a session just opened ends in. -/
def Reachable (session : Session) : Prop :=
  ∃ token handle events, (opened token handle).Run events session

variable {session middle after : Session} {events later : List Event}

/-- A run of one event more plays that event and goes on. -/
@[simp]
theorem run_cons {event : Event} :
    session.Run (event :: events) after ↔
      ∃ middle, (session.perform event.request).Plays event.exchanges (event.answer, middle) ∧
        middle.Run events after := by
  constructor
  · intro h
    cases h with
    | cons plays rest => exact ⟨_, plays, rest⟩
  · rintro ⟨middle, plays, rest⟩
    exact .cons plays rest

/-- Runs follow one another. -/
theorem Run.append (first : session.Run events middle) (rest : middle.Run later after) :
    session.Run (events ++ later) after := by
  induction first with
  | nil => exact rest
  | cons plays _ ih => exact .cons plays (ih rest)

/-- And can be cut anywhere. -/
theorem Run.split (run : session.Run (events ++ later) after) :
    ∃ middle, session.Run events middle ∧ middle.Run later after := by
  induction events generalizing session with
  | nil => exact ⟨session, .nil session, run⟩
  | cons event events ih =>
    obtain ⟨next, plays, rest⟩ := run_cons.1 run
    obtain ⟨middle, hfirst, hrest⟩ := ih rest
    exact ⟨middle, .cons plays hfirst, hrest⟩

/-- What each request keeps, every run keeps. -/
theorem Run.keeps {P : Session → Prop}
    (kept : ∀ {session after : Session} {request : Request} {exchanges : List Exchange}
      {answer : request.Answer}, P session →
        (session.perform request).Plays exchanges (answer, after) → P after)
    (run : session.Run events after) (holds : P session) : P after := by
  induction run with
  | nil => exact holds
  | cons plays _ ih => exact ih (kept holds plays)

/-- An opened session is reachable. -/
theorem reachable_opened (token : Token) (handle : Code) : (opened token handle).Reachable :=
  ⟨token, handle, [], .nil _⟩

/-- Every run from a reachable session ends in one. -/
theorem Reachable.run (reachable : session.Reachable) (run : session.Run events after) :
    after.Reachable := by
  obtain ⟨token, handle, before, first⟩ := reachable
  exact ⟨token, handle, before ++ events, first.append run⟩

/-- So does every request. -/
theorem Reachable.perform (reachable : session.Reachable) {request : Request}
    {exchanges : List Exchange} {answer : request.Answer}
    (plays : (session.perform request).Plays exchanges (answer, after)) : after.Reachable :=
  reachable.run (.cons plays (.nil _))

/-- What holds of sessions just opened and is kept by each request holds of all reachable sessions. -/
theorem Reachable.of_kept {P : Session → Prop}
    (holds : ∀ token handle, P (opened token handle))
    (kept : ∀ {session after : Session} {request : Request} {exchanges : List Exchange}
      {answer : request.Answer}, P session →
        (session.perform request).Plays exchanges (answer, after) → P after)
    (reachable : session.Reachable) : P session := by
  obtain ⟨token, handle, events, run⟩ := reachable
  exact run.keeps kept (holds token handle)

/-- Opening a session of a token yields a session just opened. -/
theorem plays_openSession {token : Token} {rw : Bool} {exchanges : List Exchange}
    (plays : (token.openSession rw).Plays exchanges (.ok session)) :
    ∃ handle flags, ∃ reply : Reply (.openSession token.slot flags),
      exchanges = [⟨.openSession token.slot flags, reply⟩] ∧ reply.result = .ok handle ∧
        session = opened token handle := by
  obtain ⟨result, hplays, hresult⟩ := Program.plays_map.1 plays
  obtain ⟨reply, rfl, rfl⟩ := Program.plays_request.1 hplays
  cases hreply : reply.result with
  | error e =>
    rw [hreply] at hresult
    cases hresult
  | ok handle =>
    rw [hreply] at hresult
    cases hresult
    exact ⟨handle, _, reply, rfl, hreply, rfl⟩

/-! ## Commands passed on -/

/-- An open session has its handle at hand. -/
theorem openHandle_of_open {handle : Code} (isOpen : session.handle = some handle) :
    session.openHandle = .ok handle := by
  simp [openHandle, isOpen]

/-- A closed session says that it is closed. -/
theorem openHandle_of_closed (closed : session.handle = none) :
    session.openHandle = .error .sessionClosed := by
  simp [openHandle, closed]

/-- It never says anything else. -/
theorem openHandle_error {e : Error} (h : session.openHandle = .error e) : e = .sessionClosed := by
  unfold openHandle at h
  split at h <;> cases h
  rfl

/-- The handle at hand is the one of the session. -/
theorem openHandle_eq_ok_iff {handle : Code} :
    session.openHandle = .ok handle ↔ session.handle = some handle := by
  unfold openHandle
  cases session.handle <;> simp

/-- A command passed on is one exchange, and the session stays as it is. -/
theorem plays_forward_of_open {handle : Code} (isOpen : session.handle = some handle)
    {command : Command} {exchanges : List Exchange} {result : Except Error command.Result} :
    (session.forward command).Plays exchanges (result, after) ↔
      ∃ reply : Reply (.inSession handle command),
        exchanges = [⟨.inSession handle command, reply⟩] ∧ result = reply.result ∧ after = session := by
  simp only [forward, openHandle_of_open isOpen, Program.plays_map, Program.plays_request]
  constructor
  · rintro ⟨_, ⟨reply, rfl, rfl⟩, heq⟩
    cases heq
    exact ⟨reply, rfl, rfl, rfl⟩
  · rintro ⟨reply, rfl, rfl, rfl⟩
    exact ⟨reply.result, ⟨reply, rfl, rfl⟩, rfl⟩

/-- No command passed on changes the session. -/
theorem eq_of_plays_forward {command : Command} {exchanges : List Exchange}
    {result : Except Error command.Result}
    (plays : (session.forward command).Plays exchanges (result, after)) : after = session := by
  unfold forward at plays
  split at plays
  next =>
    cases (Program.plays_done.1 plays).2
    rfl
  next =>
    obtain ⟨_, -, heq⟩ := Program.plays_map.1 plays
    cases heq
    rfl

/-- An action without anything written plays the exchanges of the action. -/
theorem plays_plainly {α β : Type} {answer : Except Error α → β} {action : Action α}
    {exchanges : List Exchange} {b : β} :
    (plainly answer action).Plays exchanges (b, after) ↔
      ∃ result, action.Plays exchanges (result, after) ∧ b = answer result := by
  simp only [plainly, Program.plays_map]
  constructor
  · rintro ⟨⟨result, session⟩, h, heq⟩
    cases heq
    exact ⟨result, h, rfl⟩
  · rintro ⟨result, h, rfl⟩
    exact ⟨(result, after), h, rfl⟩

end Session

end TokenClient
