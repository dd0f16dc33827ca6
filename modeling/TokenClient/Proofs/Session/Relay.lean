import TokenClient.Proofs.Session.Run

/-!
# Calls that put a command to the module

Most calls on a session either fail at once or put a single command to the module. Then the tracker has let
the command through (`Tracker.Admits`), the session changes as the tracker's account of the reply says
(`Session.answered`), and the result is made from that of the module. `Session.Relays` says all of this
about a call. There is one such statement for each call below; what is proved of calls elsewhere is read off
these statements.
-/

namespace TokenClient

namespace Tracker

/-- The commands that a tracker lets through. -/
def Admits (tracker : Tracker) : Command → Prop
  | .start start _ => tracker.checkStart start.operation = .ok ()
  | .step step => tracker.checkAll step.operations = .ok ()
  | .message step => tracker.checkMessage step.operation step.place = .ok ()
  | .findObjectsInit _ => tracker.checkSearch = .ok ()
  | .findObjects _ =>
    tracker.checkActive .find = .ok () ∧ ∃ cursor, tracker.cursor = some cursor ∧ ¬ cursor.exhausted
  | _ => True

/-- The tracker after the module has answered a command. -/
def answered (tracker : Tracker) : (command : Command) → Except Error command.Result → Tracker
  | .closeSession, _ => .idle
  | .setOperationState _ _ _, .ok _ => .idle
  | .start start _, .ok _ => tracker.start start.operation
  | .step step, result =>
    if step.isLast || !result.isOk then tracker.finish (.ofList step.operations) else tracker
  | .message step, result => tracker.afterMessage step.place result.isOk
  | .sessionCancel flags, .ok _ => tracker.finish (.ofCancelFlags flags)
  | .findObjectsInit _, .ok _ => tracker.start .find
  | .findObjects max, .ok batch => { tracker with cursor := tracker.cursor.map (·.after max batch) }
  | .findObjectsFinal, _ => tracker.finish (.single .find)
  | _, _ => tracker

end Tracker

namespace Session

/-- The session after the module has answered a command. -/
def answered (session : Session) : (command : Command) → Except Error command.Result → Session
  | .closeSession, _ => { session with handle := none, tracker := .idle }
  | command, result => { session with tracker := session.tracker.answered command result }

/-- No reply changes what the session knows of its access. -/
@[simp]
theorem knownRw_answered (session : Session) (command : Command) (result : Except Error command.Result) :
    (session.answered command result).knownRw = session.knownRw := by
  cases command <;> rfl

/-- A reply changes the tracker as the tracker says. -/
theorem tracker_answered (session : Session) (command : Command) (result : Except Error command.Result) :
    (session.answered command result).tracker = session.tracker.answered command result := by
  cases command <;> rfl

/-- Only a close takes the handle away. -/
theorem handle_answered (session : Session) {command : Command} (other : command ≠ .closeSession)
    (result : Except Error command.Result) : (session.answered command result).handle = session.handle := by
  cases command with
  | closeSession => exact absurd rfl other
  | _ => rfl

variable {α : Type} {session after : Session} {exchanges : List Exchange} {handle : Code}
  {command : Command} {outcome : Except Error command.Result → Except Error α}

/-- A call that puts a command to an open session whose tracker lets it through, and makes its result from
that of the module. Otherwise nothing has happened. -/
def Relays (session : Session) (command : Command)
    (outcome : Except Error command.Result → Except Error α) (action : Action α) : Prop :=
  ∀ exchanges result after, action.Plays exchanges (result, after) →
    exchanges = [] ∧ after = session ∨
      ∃ handle, ∃ reply : Reply (.inSession handle command),
        session.handle = some handle ∧ session.tracker.Admits command ∧
          exchanges = [⟨.inSession handle command, reply⟩] ∧ result = outcome reply.result ∧
            after = session.answered command reply.result

private theorem relays_done (result : Except Error α) :
    session.Relays command outcome (.done (result, session)) := by
  intro exchanges result' after plays
  obtain ⟨rfl, heq⟩ := Program.plays_done.1 plays
  cases heq
  exact .inl ⟨rfl, rfl⟩

/-- An action that makes one request of an open session and answers from the reply relays it. -/
theorem relays_request {f : Except Error command.Result → Except Error α × Session}
    (isOpen : session.handle = some handle) (admits : session.tracker.Admits command)
    (makes : ∀ result, f result = (outcome result, session.answered command result)) :
    session.Relays command outcome ((Program.request (.inSession handle command)).map f) := by
  intro exchanges result after plays
  obtain ⟨_, hplays, heq⟩ := Program.plays_map.1 plays
  obtain ⟨reply, rfl, rfl⟩ := Program.plays_request.1 hplays
  rw [makes] at heq
  cases heq
  exact .inr ⟨handle, reply, isOpen, admits, rfl, rfl, rfl⟩

/-- A forwarded command with its result changed afterwards relays the command. -/
private theorem relays_forward_map {f : Except Error command.Result × Session → Except Error α × Session}
    (admits : session.tracker.Admits command)
    (makes : ∀ result, f (result, session) = (outcome result, session.answered command result))
    (fails : ∀ e, (f (.error e, session)).2 = session) :
    session.Relays command outcome ((session.forward command).map f) := by
  cases hhandle : session.handle with
  | none =>
    intro exchanges result after plays
    rw [forward, openHandle_of_closed hhandle] at plays
    obtain ⟨_, hplays, heq⟩ := Program.plays_map.1 plays
    obtain ⟨rfl, rfl⟩ := Program.plays_done.1 hplays
    refine .inl ⟨rfl, ?_⟩
    have h := fails .sessionClosed
    rwa [← heq] at h
  | some handle =>
    intro exchanges result after plays
    obtain ⟨⟨_, _⟩, hplays, heq⟩ := Program.plays_map.1 plays
    obtain ⟨reply, rfl, rfl, rfl⟩ := (plays_forward_of_open hhandle).1 hplays
    rw [makes] at heq
    cases heq
    exact .inr ⟨handle, reply, hhandle, admits, rfl, rfl, rfl⟩

/-- A command passed on that the tracker takes no notice of. -/
theorem relays_forward (command : Command) (admits : session.tracker.Admits command)
    (quiet : ∀ result, session.answered command result = session) :
    session.Relays command id (session.forward command) := by
  intro exchanges result after plays
  refine relays_forward_map (f := id) admits ?_ (fun e => rfl) exchanges result after ?_
  · intro result
    rw [quiet]
    rfl
  · exact Program.plays_map.2 ⟨_, plays, rfl⟩

/-! ## The calls -/

/-- That the user is logged in already is no failure. -/
def loggedIn : Except Error Unit → Except Error Unit
  | .ok () => .ok ()
  | .error e => if e.isRv Rv.userAlreadyLoggedIn then .ok () else .error e

/-- Logging in relays the login; that the user is logged in already is no failure. -/
theorem relays_login (session : Session) (user : Code) (pin : String) :
    session.Relays (.login user (session.encoding.encode pin)) loggedIn (session.login user pin) := by
  refine relays_forward_map trivial ?_ ?_
  · rintro (_ | _) <;> rfl
  · intro e
    rfl

/-- Asking for random bytes relays the length, to which the answer is cut or filled up. -/
theorem relays_randomBytes (session : Session) (length : UInt64) :
    session.Relays (.generateRandom length) (Except.map fun bytes => some (Bytes.fit length.toNat bytes))
      (session.randomBytes length) := by
  unfold randomBytes
  split
  next e _ => exact relays_done _
  next handle h =>
    split
    next => exact relays_request (openHandle_eq_ok_iff.1 h) trivial fun _ => rfl
    next => exact relays_done _

/-- Restoring a state relays it with the two keys. -/
theorem relays_setOperationState (session : Session) (state : Bytes)
    (encryptionKey authenticationKey : Code) :
    session.Relays (.setOperationState state encryptionKey authenticationKey) id
      (session.setOperationState state encryptionKey authenticationKey) := by
  refine relays_forward_map trivial ?_ ?_
  · rintro (_ | _) <;> rfl
  · intro e
    rfl

/-- Cancelling relays the flags. -/
theorem relays_cancel (session : Session) (flags : Code) :
    session.Relays (.sessionCancel flags) id (session.cancel flags) := by
  refine relays_forward_map trivial ?_ ?_
  · rintro (_ | _) <;> rfl
  · intro e
    rfl

/-- Closing relays the close. -/
theorem relays_close (session : Session) : session.Relays .closeSession id session.close := by
  unfold close
  split
  next e _ => exact relays_done _
  next handle h => exact relays_request (openHandle_eq_ok_iff.1 h) trivial fun _ => rfl

/-- Starting an operation relays the start, with the mechanism as the code map translates it. -/
theorem relays_start (session : Session) (start : Start) (mechanism : Mechanism) :
    session.Relays (.start start (session.wireMechanism mechanism)) id
      (session.start start mechanism) := by
  unfold Session.start
  split
  next e _ => exact relays_done _
  next handle h =>
    split
    next refusal _ => exact relays_done _
    next hcheck =>
      refine relays_request (openHandle_eq_ok_iff.1 h) hcheck ?_
      rintro (_ | _) <;> rfl

/-- A step is relayed, and where it verifies, what the module says of the signature becomes a verdict. -/
theorem relays_step (session : Session) (step : Step) :
    session.Relays (.step step) (settle step.verifies) (session.step step) := by
  unfold Session.step
  split
  next e _ => exact relays_done _
  next handle h =>
    split
    next refusal _ => exact relays_done _
    next hcheck =>
      refine relays_request (openHandle_eq_ok_iff.1 h) hcheck ?_
      intro result
      simp only [afterStep, answered, Tracker.answered]
      split <;> rfl

/-- Starting a search relays the template in its wire form. -/
theorem relays_startFind (session : Session) (template : Template) :
    session.Relays (.findObjectsInit (session.wireTemplate template)) id
      (session.startFind template) := by
  unfold startFind
  split
  next e _ => exact relays_done _
  next handle h =>
    split
    next refusal _ => exact relays_done _
    next hcheck =>
      refine relays_request (openHandle_eq_ok_iff.1 h) hcheck ?_
      rintro (_ | _) <;> rfl

/-- The handles that a session hands out of a batch, unless it panics. -/
def handOut (session : Session) (max : UInt64) (batch : List Code) : Attempt (List Code) :=
  session.tracker.cursor.bind fun cursor => (cursor.filter max batch).map (·.1)

/-- A call for handles relays the limit, and hands out what was not returned before. -/
theorem relays_find (session : Session) (max : UInt64) :
    session.Relays (.findObjects max) (Except.map (session.handOut max)) (session.find max) := by
  unfold find
  split
  next e _ => exact relays_done _
  next handle h =>
    split
    next refusal _ => exact relays_done _
    next hcheck =>
      split
      next _ => exact relays_done _
      next _ =>
        split
        next _ => exact relays_done _
        next cursor hcursor =>
          split
          next _ => exact relays_done _
          next hexhausted =>
            refine relays_request (openHandle_eq_ok_iff.1 h) ⟨hcheck, cursor, hcursor, hexhausted⟩ ?_
            rintro (_ | batch)
            · rfl
            · by_cases room : HasRoom FindCursor.handleSize max.toNat
              · simp only [FindCursor.filter_of_room room, answered, Tracker.answered, hcursor, Except.map,
                  handOut, Option.map_some, Option.bind_some, FindCursor.after_of_room room]
                rfl
              · simp only [FindCursor.filter_of_no_room room, answered, Tracker.answered, hcursor, Except.map,
                  handOut, Option.map_some, Option.map_none, Option.bind_some,
                  FindCursor.after_of_no_room room]
                simp only [← hcursor]

/-- Ending a search relays the end. -/
theorem relays_endFind (session : Session) :
    session.Relays .findObjectsFinal id session.endFind := by
  unfold endFind
  split
  next e _ => exact relays_done _
  next handle h => exact relays_request (openHandle_eq_ok_iff.1 h) trivial fun _ => rfl

end Session

end TokenClient
