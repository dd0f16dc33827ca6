import TokenClient.Proofs.Session.Refusal

/-!
# The verdict on a signature

Five requests ask a token whether a signature matches its data. The answer is one of three things that a caller must
not mix up: that it matches, that it does not, or that there is no answer, because the call was refused here or failed
there. A mismatch may be told bare, or along with a message or a cause (`Error.TellsMismatch`), and other errors may
carry its return value without being an answer of the token at all.

The main result (`Session.verdict_exact`) says when a caller gets each of the three, from what the token answered and
from the session before the call alone. It holds of any session and any reply.
-/

namespace TokenClient

/-- An answer of a token that a signature does not match, whatever else it says. -/
def Error.TellsMismatch (e : Error) : Prop :=
  (e.kind = .token ∨ e.kind = .signatureInvalid) ∧ e.rv = Rv.signatureInvalid

/-- The requests that decide about a signature, with the operation that has to run for it. -/
inductive Request.Verifies : Request → Operation → Prop
  | verify (data signature : Bytes) : Verifies (.step (.verify data signature)) .verify
  | verifyFinal (signature : Bytes) : Verifies (.step (.verifyFinal signature)) .verify
  | verifyRecover (signature : Bytes) : Verifies (.step (.verifyRecover signature)) .verifyRecover
  | message (params : Option MechanismParams) (data signature : Bytes) :
      Verifies (.message (.verify params data signature)) .messageVerify
  | messageNext (params : Option MechanismParams) (part : Bytes) (signature : Option Bytes) :
      Verifies (.message (.verifyNext params part signature)) .messageVerify

/-! ## Errors that are verdicts -/

namespace Error

variable {e : Error}

private theorem isRv_signatureInvalid_iff : e.isRv Rv.signatureInvalid = true ↔ e.TellsMismatch := by
  unfold isRv TellsMismatch
  cases e.kind <;> simp

/-- What else was said of a mismatch is left out. -/
theorem verdict_of_mismatch (mismatch : e.TellsMismatch) : e.verdict = .token Rv.signatureInvalid :=
  if_pos (isRv_signatureInvalid_iff.2 mismatch)

private theorem verdict_of_other (other : ¬ e.TellsMismatch) : e.verdict = e :=
  if_neg fun h => other (isRv_signatureInvalid_iff.1 h)

/-- Errors of this kind are mismatches, so a verdict is of it just if there is one. -/
theorem tellsMismatch_of_kind (h : e.kind = .signatureInvalid) : e.TellsMismatch := by
  refine ⟨.inr h, ?_⟩
  cases e with
  | token rv =>
    by_contra hother
    cases h.symm.trans (if_neg hother)
  | _ => cases h

/-- The verdict is a mismatch iff the token told one. -/
private theorem kind_verdict_eq_iff : e.verdict.kind = .signatureInvalid ↔ e.TellsMismatch := by
  by_cases mismatch : e.TellsMismatch
  · rw [verdict_of_mismatch mismatch]
    exact ⟨fun _ => mismatch, fun _ => rfl⟩
  · rw [verdict_of_other mismatch]
    exact ⟨tellsMismatch_of_kind, fun h => absurd h mismatch⟩

end Error

/-! ## Verifications -/

namespace Session

variable {session after : Session} {request : Request} {op : Operation} {exchanges : List Exchange}
  {answer : request.Answer} {e : Error}

/-- A step was put to the module of an open session, in one call, and this is what the module answered. -/
inductive Told (session : Session) : (request : Request) → List Exchange → Except Error request.Result → Prop
  | step {handle : Code} {step : Step} (isOpen : session.handle = some handle)
      (reply : Reply (.inSession handle (.step step))) :
      Told session (.step step) [⟨.inSession handle (.step step), reply⟩] reply.result
  | message {handle : Code} {step : MessageStep} (isOpen : session.handle = some handle)
      (reply : Reply (.inSession handle (.message step))) :
      Told session (.message step) [⟨.inSession handle (.message step), reply⟩] reply.result

/-- A verification by an operation is refused here, with this error. -/
inductive Rejects (session : Session) (op : Operation) : Request → Error → Prop
  | closed {request : Request} (closed : session.handle = none) : Rejects session op request .sessionClosed
  | inactive {request : Request} {handle : Code} (isOpen : session.handle = some handle)
      (inactive : session.active.contains op = false) :
      Rejects session op request (Refusal.notInitialized op).error
  | messageInProgress {params : Option MechanismParams} {data signature : Bytes} {handle : Code}
      (isOpen : session.handle = some handle) (active : session.active.contains op = true)
      (begun : session.tracker.messageBegun = true) :
      Rejects session op (.message (.verify params data signature)) (Refusal.messageInProgress op).error
  | noMessage {params : Option MechanismParams} {part : Bytes} {signature : Option Bytes} {handle : Code}
      (isOpen : session.handle = some handle) (active : session.active.contains op = true)
      (between : session.tracker.messageBegun = false) :
      Rejects session op (.message (.verifyNext params part signature)) (Refusal.noMessage op).error

/-- A request is told one thing at most. -/
theorem Told.unique {told other : Except Error request.Result} (h : session.Told request exchanges told)
    (hother : session.Told request exchanges other) : other = told := by
  cases h <;> cases hother <;> rfl

private theorem Told.iff {told other : Except Error request.Result} (h : session.Told request exchanges told) :
    session.Told request exchanges other ↔ other = told := by
  constructor
  · exact h.unique
  · rintro rfl
    exact h

/-- Without a call nothing is told. -/
theorem not_told_nil {told : Except Error request.Result} : ¬ session.Told request [] told := by
  intro h
  cases h

/-- A request is rejected with one error at most. -/
theorem Rejects.unique {other : Error} (h : session.Rejects op request e)
    (hother : session.Rejects op request other) : other = e := by
  cases h <;> cases hother <;> simp_all

/-- What is refused here is no verdict. -/
theorem Rejects.not_tellsMismatch (rejects : session.Rejects op request e) : ¬ e.TellsMismatch := by
  rintro ⟨hkind | hkind, -⟩ <;> cases rejects <;> cases hkind

/-- A verification is refused here, or its result is the verdict of the token's answer. -/
def Decided (session : Session) (op : Operation) (request : Request) (exchanges : List Exchange)
    (result : Except Error request.Result) : Prop :=
  (exchanges = [] ∧ ∃ e, session.Rejects op request e ∧ result = .error e) ∨
    ∃ told, session.Told request exchanges told ∧ result = told.mapError Error.verdict

/-- A verification step is decided by what it was told. -/
private theorem decided_step {step : Step} {answer : (Request.step step).Answer} (alone : step.operations = [op])
    (verifies : step.verifies = true)
    (plays : (session.perform (.step step)).Plays exchanges (answer, after)) :
    session.Decided op (.step step) exchanges answer.result := by
  rw [perform] at plays
  obtain ⟨result, hplays, rfl⟩ := plays_plainly.1 plays
  unfold Session.step at hplays
  cases hhandle : session.handle with
  | none =>
    rw [openHandle_of_closed hhandle] at hplays
    obtain ⟨rfl, heq⟩ := Program.plays_done.1 hplays
    cases heq
    exact .inl ⟨rfl, _, .closed hhandle, rfl⟩
  | some handle =>
    rw [openHandle_of_open hhandle, alone] at hplays
    cases hactive : session.tracker.active.contains op with
    | false =>
      simp only [Tracker.checkAll, Tracker.checkActive, hactive] at hplays
      obtain ⟨rfl, heq⟩ := Program.plays_done.1 hplays
      cases heq
      exact .inl ⟨rfl, _, .inactive hhandle hactive, rfl⟩
    | true =>
      simp only [Tracker.checkAll, Tracker.checkActive, hactive, if_true, settle, verifies] at hplays
      obtain ⟨_, hrequest, heq⟩ := Program.plays_map.1 hplays
      obtain ⟨reply, rfl, rfl⟩ := Program.plays_request.1 hrequest
      cases heq
      exact .inr ⟨_, .step hhandle reply, rfl⟩

/-- A message step that is not admitted is rejected. -/
private theorem rejects_of_admitMessage {step : MessageStep} (verifies : Request.Verifies (.message step) op)
    (refused : session.admitMessage step = .error e) : session.Rejects op (.message step) e := by
  have hop : step.operation = op := by cases verifies <;> rfl
  unfold admitMessage at refused
  cases hhandle : session.handle with
  | none =>
    rw [openHandle_of_closed hhandle] at refused
    cases refused
    exact .closed hhandle
  | some handle =>
    simp only [openHandle_of_open hhandle, Tracker.checkMessage, Tracker.checkActive, hop] at refused
    cases hactive : session.tracker.active.contains op with
    | false =>
      rw [hactive] at refused
      cases refused
      exact .inactive hhandle hactive
    | true =>
      rw [hactive] at refused
      -- What is left depends on whether a message is to begin or to go on.
      cases verifies with
      | message params data signature =>
        cases hbegun : session.tracker.messageBegun with
        | false =>
          rw [hbegun] at refused
          cases refused
        | true =>
          rw [hbegun] at refused
          cases refused
          exact .messageInProgress hhandle hactive hbegun
      | messageNext params part signature =>
        cases hbegun : session.tracker.messageBegun with
        | false =>
          rw [hbegun] at refused
          cases refused
          exact .noMessage hhandle hactive hbegun
        | true =>
          rw [hbegun] at refused
          cases refused

/-- A message verification is decided by what it was told, or rejected. -/
private theorem decided_message {step : MessageStep} {answer : (Request.message step).Answer}
    (verifies : Request.Verifies (.message step) op)
    (plays : (session.perform (.message step)).Plays exchanges (answer, after)) :
    session.Decided op (.message step) exchanges answer.result := by
  have decides : step.verifies = true := by cases verifies <;> rfl
  cases hadmitted : session.admitMessage step with
  | error e =>
    rw [perform_message_of_refused hadmitted] at plays
    obtain ⟨rfl, heq⟩ := Program.plays_done.1 plays
    cases heq
    exact .inl ⟨rfl, e, rejects_of_admitMessage verifies hadmitted, rfl⟩
  | ok handle =>
    rw [perform_message_of_admitted hadmitted] at plays
    obtain ⟨reply, rest, rfl, hrest⟩ := Program.plays_ask.1 plays
    obtain ⟨rfl, heq⟩ := Program.plays_done.1 hrest
    cases heq
    obtain ⟨isOpen, -⟩ := admitMessage_eq_ok_iff.1 hadmitted
    refine .inr ⟨_, .message isOpen reply, ?_⟩
    simp only [settle, decides, if_true]

/-- Every verification call is decided by what it was told, or rejected. -/
theorem decided_perform (verifies : request.Verifies op)
    (plays : (session.perform request).Plays exchanges (answer, after)) :
    session.Decided op request exchanges answer.result := by
  cases verifies with
  | verify | verifyFinal | verifyRecover => exact decided_step rfl rfl plays
  | message params data signature => exact decided_message (.message params data signature) plays
  | messageNext params part signature => exact decided_message (.messageNext params part signature) plays

/-! ## What the caller learns -/

variable {result : Except Error request.Result}

private theorem Decided.ok_iff (decided : session.Decided op request exchanges result) {value : request.Result} :
    result = .ok value ↔ session.Told request exchanges (.ok value) := by
  obtain ⟨rfl, e, -, rfl⟩ | ⟨told, htold, rfl⟩ := decided
  · simp only [not_told_nil, reduceCtorEq]
  · rw [htold.iff]
    cases told with
    | ok found => rw [Except.mapError, eq_comm]
    | error e => simp only [Except.mapError, reduceCtorEq]

private theorem Decided.mismatch_iff (decided : session.Decided op request exchanges result) :
    (∃ e, result = .error e ∧ e.kind = .signatureInvalid) ↔
      ∃ e, session.Told request exchanges (.error e) ∧ e.TellsMismatch := by
  obtain ⟨rfl, e, rejects, rfl⟩ | ⟨told, htold, rfl⟩ := decided
  · have hkind : e.kind ≠ .signatureInvalid := fun h => rejects.not_tellsMismatch (Error.tellsMismatch_of_kind h)
    simp [not_told_nil, hkind]
  · simp only [htold.iff]
    cases told with
    | ok found => simp only [Except.mapError, reduceCtorEq, false_and, exists_false]
    | error e => simp [Except.mapError, Error.kind_verdict_eq_iff]

private theorem Decided.error_iff (decided : session.Decided op request exchanges result)
    (other : e.kind ≠ .signatureInvalid) :
    result = .error e ↔
      exchanges = [] ∧ session.Rejects op request e ∨
        session.Told request exchanges (.error e) ∧ ¬ e.TellsMismatch := by
  obtain ⟨rfl, found, rejects, rfl⟩ | ⟨told, htold, rfl⟩ := decided
  · simp only [not_told_nil, false_and, or_false, true_and, Except.error.injEq]
    constructor
    · rintro rfl
      exact rejects
    · exact fun h => (rejects.unique h).symm
  · have asked : exchanges ≠ [] := by
      rintro rfl
      exact not_told_nil htold
    simp only [htold.iff, asked, false_and, false_or]
    cases told with
    | ok found => simp only [Except.mapError, reduceCtorEq, false_and]
    | error found =>
      simp only [Except.mapError, Except.error.injEq]
      constructor
      · rintro rfl
        have hother : ¬ found.TellsMismatch := fun mismatch => other (Error.kind_verdict_eq_iff.2 mismatch)
        rw [Error.verdict_of_other hother]
        exact ⟨rfl, hother⟩
      · rintro ⟨rfl, hother⟩
        exact Error.verdict_of_other hother

/-- A caller learns that a signature matches if the token says so, and that it does not if the token says that, be it
along with more. Any other error that it gets is that of the token, or that of the session which did not ask it. -/
theorem verdict_exact (verifies : request.Verifies op)
    (plays : (session.perform request).Plays exchanges (answer, after)) :
    (∀ value, answer.result = .ok value ↔ session.Told request exchanges (.ok value)) ∧
      ((∃ e, answer.result = .error e ∧ e.kind = .signatureInvalid) ↔
        ∃ e, session.Told request exchanges (.error e) ∧ e.TellsMismatch) ∧
      ∀ e, e.kind ≠ .signatureInvalid →
        (answer.result = .error e ↔
          exchanges = [] ∧ session.Rejects op request e ∨
            session.Told request exchanges (.error e) ∧ ¬ e.TellsMismatch) := by
  have decided := decided_perform verifies plays
  exact ⟨fun _ => decided.ok_iff, decided.mismatch_iff, fun _ => decided.error_iff⟩

/-- A token says why a signature does not match, and the caller gets the verdict. -/
theorem verdict_exact_explained :
    let exchanges : List Exchange := [⟨.inSession 7 (.step (.verify [1] [2])),
      ⟨.error (.tokenMessage Rv.signatureInvalid "wrong key"), ()⟩⟩]
    ((started (Token.bare 0) 7 .verify).perform (.step (.verify [1] [2]))).Plays exchanges
        (⟨.error (.token Rv.signatureInvalid), ()⟩, opened (Token.bare 0) 7) ∧
      ∃ e, (started (Token.bare 0) 7 .verify).Told (.step (.verify [1] [2])) exchanges (.error e) ∧
        e.TellsMismatch := by
  intro exchanges
  have plays : ((started (Token.bare 0) 7 .verify).perform (.step (.verify [1] [2]))).Plays exchanges
      (⟨.error (.token Rv.signatureInvalid), ()⟩, opened (Token.bare 0) 7) := .ask _ (.done _)
  exact ⟨plays, (verdict_exact (.verify [1] [2]) plays).2.1.1 ⟨_, rfl, rfl⟩⟩

end Session

end TokenClient
