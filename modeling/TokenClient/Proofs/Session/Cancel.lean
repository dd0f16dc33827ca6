import TokenClient.Proofs.Session.Invariant

/-!
# Cancelling operations

The flags of a cancellation name operations, several at once or none, and whether they run or not. If the
module refuses, nothing changes. If it agrees, the operations that are named end. Of the others a search
keeps its cursor. A message in progress is kept only if no message operation at all is named: there is one
record of a message for all of them, and naming any of them clears it.

The main result (`Session.cancel_exact`) states this for all reachable sessions and all flags, and what it
means for the next part of the message.
-/

namespace TokenClient.Session

variable {session after : Session} {exchanges : List Exchange} {flags : Code}

/-- The flags of a cancellation name an operation. -/
def Names (flags : Code) (op : Operation) : Prop :=
  (OperationSet.ofCancelFlags flags).contains op = true

/-- The flags of a cancellation name some message operation. -/
def NamesMessage (flags : Code) : Prop := ∃ op, op.isMessage = true ∧ Names flags op

/-- What is left of a session when the operations that the flags name have ended. -/
structure Cancelled (session : Session) (flags : Code) (after : Session) : Prop where
  frame : after = { session with tracker := after.tracker }
  active : after.active = session.active.diff (.ofCancelFlags flags)
  cursor_of_unnamed : ¬ Names flags .find → after.tracker.cursor = session.tracker.cursor
  cursor_of_named : Names flags .find → after.tracker.cursor = none
  /-- Of the messages in progress it is not enough that the operation is not named. -/
  inMessage_iff : ∀ op, after.InMessage op ↔ session.InMessage op ∧ ¬ NamesMessage flags
  /-- The next part of a message that was in progress reaches the module if the message still is. -/
  asks_iff : ∀ step : MessageStep, step.place.isPart = true → session.InMessage step.operation →
    ((∃ handle next, after.perform (.message step) = .ask (.inSession handle (.message step)) next) ↔
      ¬ NamesMessage flags)

private theorem any_isMessage_eq_false_iff :
    (OperationSet.ofCancelFlags flags).any Operation.isMessage = false ↔ ¬ NamesMessage flags := by
  rw [← Bool.not_eq_true, OperationSet.any_eq_true_iff]
  simp only [NamesMessage, Names, and_comm]

/-- The session after a cancellation that the module agrees to. -/
def cancelled (session : Session) (flags : Code) : Session :=
  { session with tracker := session.tracker.finish (.ofCancelFlags flags) }

/-- A cancellation keeps a message iff its flags name no message operation. -/
private theorem inMessage_cancelled_iff {op : Operation} :
    (session.cancelled flags).InMessage op ↔ session.InMessage op ∧ ¬ NamesMessage flags := by
  rw [← any_isMessage_eq_false_iff]
  constructor
  · rintro ⟨hmessage, hactive, hbegun⟩
    simp only [cancelled, Tracker.finish, Bool.and_eq_true, Bool.not_eq_true'] at hbegun
    simp only [cancelled, Session.active, Tracker.active_finish, OperationSet.contains_diff,
      Bool.and_eq_true] at hactive
    exact ⟨⟨hmessage, hactive.1, hbegun.1⟩, hbegun.2⟩
  · rintro ⟨⟨hmessage, hactive, hbegun⟩, unnamed⟩
    have hop : (OperationSet.ofCancelFlags flags).contains op = false := by
      rw [← Bool.not_eq_true]
      exact fun h => any_isMessage_eq_false_iff.1 unnamed ⟨op, hmessage, h⟩
    refine ⟨hmessage, ?_, ?_⟩
    · simpa [cancelled, Session.active, hop] using hactive
    · simp [cancelled, Tracker.finish, hbegun, unnamed]

/-- A part of a message reaches the module only if the message is in progress. -/
theorem Sound.asks_part_iff (sound : session.Sound) {step : MessageStep}
    (part : step.place.isPart = true) :
    (∃ handle next, session.perform (.message step) = .ask (.inSession handle (.message step)) next) ↔
      session.InMessage step.operation := by
  constructor
  · rintro ⟨handle, next, asks⟩
    cases hadmitted : session.admitMessage step with
    | error e =>
      rw [perform_message_of_refused hadmitted] at asks
      cases asks
    | ok handle =>
      have ⟨hactive, hbegun⟩ := Tracker.checkMessage_eq_ok_iff.1 (admitMessage_eq_ok_iff.1 hadmitted).2
      exact ⟨step.isMessage_operation, hactive, hbegun.trans part⟩
  · intro inMessage
    obtain ⟨handle, hadmitted⟩ := sound.admitMessage_part part inMessage
    exact ⟨handle, _, perform_message_of_admitted hadmitted⟩

/-- A cancellation leaves what the specification of cancelling says. -/
private theorem cancelled_cancelled (sound : (session.cancelled flags).Sound) :
    session.Cancelled flags (session.cancelled flags) where
  frame := rfl
  active := rfl
  cursor_of_unnamed := fun unnamed => if_neg unnamed
  cursor_of_named := fun named => if_pos named
  inMessage_iff := fun _ => inMessage_cancelled_iff
  asks_iff := by
    intro step part inMessage
    rw [sound.asks_part_iff part, inMessage_cancelled_iff]
    exact and_iff_right inMessage

private theorem plays_cancel (session : Session) {handle : Code} (isOpen : session.handle = some handle)
    (flags : Code) :
    (session.perform (.cancel flags)).Plays [⟨.inSession handle (.sessionCancel flags), ⟨.ok (), ()⟩⟩]
      (⟨.ok (), ()⟩, session.cancelled flags) := by
  unfold perform
  refine plays_plainly.2 ⟨.ok (), Program.plays_map.2 ⟨(.ok (), session), ?_, rfl⟩, rfl⟩
  exact (plays_forward_of_open isOpen).2 ⟨⟨.ok (), ()⟩, rfl, rfl, rfl⟩

/-- Cancelling is one exchange. Nothing changes if the module refuses; if it agrees, what the flags name
has ended, and a message in progress goes on exactly if the flags name no message operation. -/
theorem cancel_exact (reachable : session.Reachable) {answer : (Request.cancel flags).Answer}
    (plays : (session.perform (.cancel flags)).Plays exchanges (answer, after)) :
    (session.handle = none →
      exchanges = [] ∧ answer.result = .error .sessionClosed ∧ after = session) ∧
    ∀ handle, session.handle = some handle →
      ∃ reply : Reply (.inSession handle (.sessionCancel flags)),
        exchanges = [⟨.inSession handle (.sessionCancel flags), reply⟩] ∧
        answer.result = reply.result ∧
        (∀ e, reply.result = .error e → after = session) ∧
        (reply.result = .ok () → session.Cancelled flags after) := by
  have sound := (reachable.perform plays).sound
  unfold perform at plays
  obtain ⟨result, hcancel, rfl⟩ := plays_plainly.1 plays
  obtain ⟨⟨forwarded, middle⟩, hplays, heq⟩ := Program.plays_map.1 hcancel
  constructor
  · intro closed
    rw [forward, openHandle_of_closed closed] at hplays
    obtain ⟨rfl, hrefused⟩ := Program.plays_done.1 hplays
    cases hrefused
    cases heq
    exact ⟨rfl, rfl, rfl⟩
  · intro handle isOpen
    obtain ⟨reply, rfl, rfl, rfl⟩ := (plays_forward_of_open isOpen).1 hplays
    refine ⟨reply, rfl, ?_⟩
    cases hreply : reply.result with
    | error e =>
      rw [hreply] at heq
      cases heq
      exact ⟨rfl, fun _ _ => rfl, fun h => by cases h⟩
    | ok value =>
      rw [hreply] at heq
      cases heq
      exact ⟨rfl, (fun _ h => by cases h), fun _ => cancelled_cancelled sound⟩

/-- In the middle of the message of a signature a search is cancelled, though none runs. -/
theorem cancel_exact_search :
    (begun (.bare 1) 7 .messageSign).Cancelled Flag.findObjects
        ((begun (.bare 1) 7 .messageSign).cancelled Flag.findObjects) ∧
      ((begun (.bare 1) 7 .messageSign).cancelled Flag.findObjects).InMessage .messageSign := by
  have reachable : (begun (.bare 1) 7 .messageSign).Reachable := reachable_begun _ _ rfl
  have plays := plays_cancel (begun (.bare 1) 7 .messageSign) rfl Flag.findObjects
  obtain ⟨reply, hexchange, -, -, agreed⟩ := (cancel_exact reachable plays).2 7 rfl
  cases hexchange
  have hcancelled := agreed rfl
  have unnamed : ¬ NamesMessage Flag.findObjects := any_isMessage_eq_false_iff.1 (by decide)
  exact ⟨hcancelled, (hcancelled.inMessage_iff _).2 ⟨inMessage_begun _ _ rfl, unnamed⟩⟩

/-- A cancellation that the module agrees to may end a message of an operation that it does not name. -/
theorem not_cancel_keeps_unnamed :
    ¬ ∀ (session after : Session) (flags : Code) (exchanges : List Exchange)
      (answer : (Request.cancel flags).Answer) (op : Operation), session.Reachable →
        (session.perform (.cancel flags)).Plays exchanges (answer, after) → answer.result = .ok () →
          session.InMessage op → ¬ Names flags op → after.InMessage op := by
  intro keeps
  have reachable : (begun (.bare 1) 7 .messageSign).Reachable := reachable_begun _ _ rfl
  have plays := plays_cancel (begun (.bare 1) 7 .messageSign) rfl Flag.messageDecrypt
  have unnamed : ¬ Names Flag.messageDecrypt .messageSign := by
    unfold Names
    decide
  have kept := keeps _ _ _ _ _ _ reachable plays rfl (inMessage_begun _ _ rfl) unnamed
  have named : Names Flag.messageDecrypt .messageDecrypt := by
    unfold Names
    decide
  exact (inMessage_cancelled_iff.1 kept).2 ⟨_, rfl, named⟩

end TokenClient.Session
