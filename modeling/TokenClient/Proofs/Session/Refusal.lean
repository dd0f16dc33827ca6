import TokenClient.Proofs.Session.Explanation
import TokenClient.Proofs.Session.Invariant

/-!
# What a refusal leaves behind

A call that the tracker refuses does not reach the module, and nearly always the session is as if the call
had not been made. There is one exception. A refused part of a message ends the message in progress, and
the part may have been one of another operation than the message (`Session.DisturbsMessage`). Nothing else
changes then, but the message of the other operation cannot go on.

The main result (`Session.refusedLocally_exact`) says that this is the exact condition: a refusal leaves
the session alone, and all later runs with it, unless it disturbs a message.
-/

namespace TokenClient.Session

variable {session after : Session} {request : Request} {exchanges : List Exchange} {e : Error}
  {op : Operation}

/-- A request is for a part of a message, while another operation is in the middle of one. -/
def DisturbsMessage (session : Session) (request : Request) : Prop :=
  ∃ step op, request = .message step ∧ step.place.isPart = true ∧ session.InMessage op ∧
    op ≠ step.operation

/-- The session without a message in progress. -/
def messageEnded (session : Session) : Session :=
  { session with tracker := { session.tracker with messageBegun := false } }

private theorem messageEnded_of_not_begun (h : session.tracker.messageBegun = false) :
    session.messageEnded = session := by
  unfold messageEnded
  rw [← h]

/-- Ending a message that was begun does change the session. -/
private theorem messageEnded_ne_of_inMessage (inMessage : session.InMessage op) :
    session.messageEnded ≠ session := by
  intro h
  have hbegun := inMessage.2.2
  rw [← h] at hbegun
  cases hbegun

/-- A part that fails ends the message. -/
private theorem afterMessage_of_part {step : MessageStep} (part : step.place.isPart = true) :
    session.afterMessage step false = session.messageEnded := by
  unfold Session.afterMessage messageEnded
  cases hplace : step.place with
  | whole | begin =>
    rw [hplace] at part
    cases part
  | part last => simp [Tracker.afterMessage]

/-- Any other message step that fails changes nothing. -/
private theorem afterMessage_of_not_part {step : MessageStep} (other : step.place.isPart = false) :
    session.afterMessage step false = session := by
  unfold Session.afterMessage
  cases hplace : step.place with
  | whole => rfl
  | begin => simp [Tracker.afterMessage]
  | part last =>
    rw [hplace] at other
    cases other

/-- A part that disturbs a message is refused, since its own operation does not run. -/
theorem Sound.admitMessage_of_disturbs (sound : session.Sound) {step : MessageStep}
    (disturbs : session.DisturbsMessage (.message step)) :
    session.admitMessage step = .error (Refusal.notInitialized step.operation).error := by
  obtain ⟨_, op, heq, -, inMessage, other⟩ := disturbs
  cases heq
  obtain ⟨handle, isOpen⟩ := sound.open_of_inMessage inMessage
  have inactive : session.tracker.active.contains step.operation = false := by
    have hactive : session.tracker.active = .single op := sound.active_of_inMessage inMessage
    simpa [hactive] using Ne.symm other
  have check : session.tracker.checkMessage step.operation step.place =
      .error (.notInitialized step.operation) := by
    simp [Tracker.checkMessage, Tracker.checkActive, inactive]
  rw [admitMessage, openHandle_of_open isOpen, check]
  rfl

/-- A refused message step ends a message if it disturbs one, and does nothing otherwise. -/
theorem Sound.afterMessage_of_refused (sound : session.Sound) {step : MessageStep}
    (refused : session.admitMessage step = .error e) :
    session.DisturbsMessage (.message step) ∧ session.afterMessage step false = session.messageEnded ∨
      ¬ session.DisturbsMessage (.message step) ∧ session.afterMessage step false = session := by
  by_cases disturbs : session.DisturbsMessage (.message step)
  · have ⟨_, _, heq, part, _, _⟩ := disturbs
    cases heq
    exact .inl ⟨disturbs, afterMessage_of_part part⟩
  refine .inr ⟨disturbs, ?_⟩
  cases hpart : step.place.isPart with
  | false => exact afterMessage_of_not_part hpart
  | true =>
    rw [afterMessage_of_part hpart]
    apply messageEnded_of_not_begun
    -- A message in progress would be one of the step's own operation, which lets its parts through.
    rw [← Bool.not_eq_true]
    intro hbegun
    obtain ⟨op, inMessage⟩ := sound.messageBegun_iff.1 hbegun
    by_cases hop : op = step.operation
    · rw [hop] at inMessage
      obtain ⟨handle, hadmitted⟩ := sound.admitMessage_part hpart inMessage
      rw [hadmitted] at refused
      cases refused
    · exact disturbs ⟨step, op, rfl, hpart, inMessage, hop⟩

/-- A call that the tracker refuses makes no exchange, and ends a message only if it disturbs one. -/
theorem Sound.after_refusedLocally (sound : session.Sound) {answer : request.Answer}
    (plays : (session.perform request).Plays exchanges (answer, after))
    (refused : RefusedLocally exchanges answer.result) :
    exchanges = [] ∧
      (session.DisturbsMessage request ∧ after = session.messageEnded ∨
        ¬ session.DisturbsMessage request ∧ after = session) := by
  obtain ⟨e, failed, hkind, unanswered⟩ := refused
  by_cases hmessage : ∃ step, request = .message step
  · obtain ⟨step, rfl⟩ := hmessage
    obtain ⟨⟨value, last⟩, hplays, heq⟩ := Program.plays_map.1 plays
    cases heq
    obtain h | ⟨rfl, hadmitted, rfl⟩ := explains_message hplays failed hkind
    · exact absurd h unanswered
    · exact ⟨rfl, sound.afterMessage_of_refused hadmitted⟩
  · have other : ∀ step, request ≠ .message step := fun step h => hmessage ⟨step, h⟩
    obtain h | ⟨rfl, rfl⟩ := explains_perform other exchanges answer after e plays failed hkind
    · exact absurd h unanswered
    · refine ⟨rfl, .inr ⟨?_, rfl⟩⟩
      rintro ⟨step, -, h, -⟩
      exact other step h

/-- After the end of its message an operation cannot go on as it could before. -/
theorem Sound.exists_run_of_inMessage (sound : session.Sound) (inMessage : session.InMessage op) :
    ∃ events final, session.Run events final ∧ ¬ session.messageEnded.Run events final := by
  obtain ⟨step, rfl, hlast⟩ := exists_lastPart inMessage.1
  have part : step.place.isPart = true := by rw [hlast]; rfl
  obtain ⟨handle, hadmitted⟩ := sound.admitMessage_part part inMessage
  let reply : Reply (.inSession handle (.message step)) := ⟨.error .sessionClosed, step.untouched⟩
  have plays := plays_message_of_admitted hadmitted reply
  refine ⟨[⟨.message step, _, _⟩], _, run_cons.2 ⟨_, plays, .nil _⟩, ?_⟩
  intro run
  obtain ⟨middle, hplays, -⟩ := run_cons.1 run
  have refused : ∃ e, session.messageEnded.admitMessage step = .error e := by
    cases h : session.messageEnded.admitMessage step with
    | error e => exact ⟨e, rfl⟩
    | ok handle' =>
      have hbegun := (Tracker.checkMessage_eq_ok_iff.1 (admitMessage_eq_ok_iff.1 h).2).2
      rw [part] at hbegun
      cases hbegun
  obtain ⟨e, hrefused⟩ := refused
  simp only [perform_message_of_refused hrefused] at hplays
  cases (Program.plays_done.1 hplays).1

/-- The step is refused before the token hears of it, and yet the message is given up. -/
private theorem Sound.plays_of_disturbs (sound : session.Sound) {step : MessageStep}
    (disturbs : session.DisturbsMessage (.message step)) :
    (session.perform (.message step)).Plays []
      (⟨.error (Refusal.notInitialized step.operation).error, step.untouched⟩, session.messageEnded) := by
  rw [perform_message_of_refused (sound.admitMessage_of_disturbs disturbs)]
  obtain ⟨_, _, heq, part, -, -⟩ := disturbs
  cases heq
  rw [afterMessage_of_part part]
  exact .done _

private theorem refusedLocally_refusal {α : Type} (refusal : Refusal) :
    RefusedLocally [] (.error refusal.error : Except Error α) :=
  ⟨_, rfl, rfl, fun ⟨_, hmem, _⟩ => by cases hmem⟩

private theorem disturbsMessage_begun (token : Token) (handle : Code) {step : MessageStep}
    (message : op.isMessage = true) (part : step.place.isPart = true) (other : op ≠ step.operation) :
    (begun token handle op).DisturbsMessage (.message step) :=
  ⟨step, op, rfl, part, inMessage_begun token handle message, other⟩

/-- Of a call that the tracker refuses the module learns nothing, and at most that a message is in progress
is forgotten. The session is as it was, and all later runs are as if the call had not been made, unless the
call disturbs a message. -/
theorem refusedLocally_exact (reachable : session.Reachable) {answer : request.Answer}
    (plays : (session.perform request).Plays exchanges (answer, after))
    (refused : RefusedLocally exchanges answer.result) :
    exchanges = [] ∧
      (after = session ∨ after = session.messageEnded) ∧
      (after = session ↔ ¬ session.DisturbsMessage request) ∧
      ((∀ events final, after.Run events final ↔ session.Run events final) ↔
        ¬ session.DisturbsMessage request) := by
  have sound := reachable.sound
  obtain ⟨hexchanges, ⟨disturbs, rfl⟩ | ⟨harmless, rfl⟩⟩ := sound.after_refusedLocally plays refused
  · have ⟨step, op, _, _, inMessage, _⟩ := disturbs
    refine ⟨hexchanges, .inr rfl, ?_, ?_⟩
    · exact ⟨fun h => absurd h (messageEnded_ne_of_inMessage inMessage), fun h => absurd disturbs h⟩
    · refine ⟨?_, fun h => absurd disturbs h⟩
      intro same
      obtain ⟨events, final, run, unplayable⟩ := sound.exists_run_of_inMessage inMessage
      exact absurd ((same events final).2 run) unplayable
  · exact ⟨hexchanges, .inl rfl, ⟨fun _ => harmless, fun _ => rfl⟩,
      ⟨fun _ => harmless, fun _ events final => .rfl⟩⟩

/-- A part of a message to sign, in the middle of a message to verify. -/
theorem refusedLocally_exact_signNext :
    ((begun (.bare 1) 7 .messageVerify).perform (.message (.signNext none [2] false))).Plays []
        (⟨.error (Refusal.notInitialized .messageSign).error, ()⟩,
          (begun (.bare 1) 7 .messageVerify).messageEnded) ∧
      (begun (.bare 1) 7 .messageVerify).messageEnded ≠ begun (.bare 1) 7 .messageVerify ∧
      ¬ ∀ events final, (begun (.bare 1) 7 .messageVerify).messageEnded.Run events final ↔
        (begun (.bare 1) 7 .messageVerify).Run events final := by
  have reachable : (begun (.bare 1) 7 .messageVerify).Reachable := reachable_begun _ _ rfl
  have disturbs :
      (begun (.bare 1) 7 .messageVerify).DisturbsMessage (.message (.signNext none [2] false)) :=
    disturbsMessage_begun _ _ rfl rfl (by decide)
  have plays := reachable.sound.plays_of_disturbs disturbs
  obtain ⟨-, -, alone, runs⟩ := refusedLocally_exact reachable plays (refusedLocally_refusal _)
  exact ⟨plays, fun same => alone.1 same disturbs, fun same => runs.1 same disturbs⟩

/-- A refusal does not always leave the tracker as it was. -/
theorem not_refusedLocally_harmless :
    ¬ ∀ (session after : Session) (request : Request) (exchanges : List Exchange)
      (answer : request.Answer), session.Reachable →
        (session.perform request).Plays exchanges (answer, after) →
          RefusedLocally exchanges answer.result →
            exchanges = [] ∧ after.tracker = session.tracker ∧
              ∀ events final, after.Run events final ↔ session.Run events final := by
  intro harmless
  have reachable : (begun (.bare 1) 7 .messageVerify).Reachable := reachable_begun _ _ rfl
  have disturbs :
      (begun (.bare 1) 7 .messageVerify).DisturbsMessage (.message (.signNext none [2] false)) :=
    disturbsMessage_begun _ _ rfl rfl (by decide)
  have plays := reachable.sound.plays_of_disturbs disturbs
  have same := (harmless _ _ _ _ _ reachable plays (refusedLocally_refusal _)).2.1
  have hbegun := congrArg Tracker.messageBegun same
  cases hbegun

end TokenClient.Session
