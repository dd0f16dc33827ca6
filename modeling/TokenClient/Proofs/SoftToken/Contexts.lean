import TokenClient.SoftToken.Answer

/-!
# The contexts of a session on the token

An operation that runs on a session of the token has a context there; the message operations share one
(`OpenSession.holds`). A start makes a context, a step needs that of its operations, the last step takes it
away. What a session answers to a command, and what it has then, is set down once for all commands but the
close (`OpenSession.Serves`, `SoftToken.serves_answer`). No other command reaches into a session.
-/

namespace TokenClient

/-- The call fails since an operation does not run, or since one runs already. -/
def Contradicts {α : Type} (result : Except Error α) : Prop :=
  ∃ e, result = .error e ∧ (e.rv = Rv.operationNotInitialized ∨ e.rv = Rv.operationActive)

/-- The call fails, and not over the question which operations run. -/
def Rejects {α : Type} (result : Except Error α) : Prop := (∃ e, result = .error e) ∧ ¬ Contradicts result

/-- No success contradicts the tracker. -/
theorem not_contradicts_ok {α : Type} (a : α) : ¬ Contradicts (.ok a : Except Error α) := by
  rintro ⟨e, h, -⟩
  cases h

/-- Of the codes of the token, only two contradict the tracker. -/
private theorem not_contradicts_token {α : Type} {rv : Code} (inits : rv ≠ Rv.operationNotInitialized)
    (active : rv ≠ Rv.operationActive) : ¬ Contradicts (.error (.token rv) : Except Error α) := by
  rintro ⟨e, h, hrv⟩
  cases h
  exact hrv.elim inits active

/-- A code meets a combination of flags if it meets one of them. -/
theorem Code.meets_or (code mask other : Code) :
    code.meets (mask ||| other) = (code.meets mask || code.meets other) := by
  have hsplit : code &&& (mask ||| other) = code &&& mask ||| code &&& other :=
    UInt64.toBitVec_inj.1 (by simp [BitVec.and_or_distrib_left])
  rw [Bool.eq_iff_iff, Code.meets, Code.meets, Code.meets, hsplit, Bool.or_eq_true]
  simp only [bne_iff_ne, ne_eq, UInt64.or_eq_zero_iff]
  exact Decidable.not_and_iff_or_not

namespace SoftToken

namespace OpenSession

variable {session : OpenSession} {key : UInt8} {op o : Operation} {flags : Code}

/-- Whether a session has the context of an operation. Nothing runs here that recovers data. -/
def holds (session : OpenSession) : Operation → Bool
  | .encrypt => session.encrypt.isSome
  | .decrypt => session.decrypt.isSome
  | .digest => session.digest.isSome
  | .sign => session.sign.isSome
  | .verify => session.verify.isSome
  | .messageEncrypt | .messageDecrypt | .messageSign | .messageVerify => session.message.isSome
  | .find => session.find.isSome
  | .signRecover | .verifyRecover => false

/-! ## Starts -/

/-- Starting an operation keeps the contexts of the others. -/
theorem holds_start_of_holds (held : session.holds o = true) : (session.start key op).holds o = true := by
  cases op <;> cases o <;> first | exact held | rfl

/-- A start the token implements gives its context. -/
theorem holds_start_self {start : Start} {mechanism : Mechanism}
    (served : implements (.start start mechanism) = true) :
    (session.start key start.operation).holds start.operation = true := by
  cases start <;> first | rfl | cases served

/-- Starting an operation touches no search. -/
@[simp]
theorem find_start : (session.start key op).find = session.find := by
  cases op <;> rfl

/-! ## Steps -/

/-- Nor does a step of one. -/
@[simp]
theorem find_step (keyValue : Bytes) (step : Step) : (session.step keyValue step).2.find = session.find := by
  cases step with
  | signRecover _ | verifyRecover _ => rfl
  | _ =>
    simp only [OpenSession.step, feedDigest, endMessages]
    split <;> rfl

/-- A step takes away no other contexts than those it is the last step of. -/
theorem holds_step {keyValue : Bytes} {step : Step} (held : session.holds o = true) :
    (session.step keyValue step).2.holds o = true ∨
      step.isLast = true ∧ ∃ op ∈ step.operations, op = o ∨ op.isMessage = true ∧ o.isMessage = true := by
  cases step with
  | signRecover _ | verifyRecover _ => exact .inl held
  | _ =>
    simp only [OpenSession.step, feedDigest, endMessages]
    split <;> cases o <;>
      first
      | exact .inl held
      | exact .inl rfl
      | exact .inr ⟨rfl, _, List.mem_cons_self, .inl rfl⟩
      | exact .inr ⟨rfl, _, List.mem_cons_self, .inr ⟨rfl, rfl⟩⟩

private theorem not_contradicts_judge (expected signature : Bytes) : ¬ Contradicts (judge expected signature) := by
  unfold judge
  split
  next => exact not_contradicts_ok ()
  next => exact not_contradicts_token (by decide) (by decide)

/-- A step whose operations have their contexts is not answered as if they had not. -/
theorem not_contradicts_step {keyValue : Bytes} {step : Step}
    (held : ∀ op ∈ step.operations, session.holds op = true) :
    ¬ Contradicts (session.step keyValue step).1 := by
  cases step with
  | signRecover _ | verifyRecover _ => exact not_contradicts_token (by decide) (by decide)
  | digestEncryptUpdate _ | decryptDigestUpdate _ | signEncryptUpdate _ | decryptVerifyUpdate _ =>
    simp only [Step.operations, List.forall_mem_cons, holds, Option.isSome_iff_exists] at held
    obtain ⟨⟨first, hfirst⟩, ⟨second, hsecond⟩, -⟩ := held
    simp only [OpenSession.step, hfirst, hsecond]
    exact not_contradicts_ok _
  | _ =>
    simp only [Step.operations, List.forall_mem_cons, holds, Option.isSome_iff_exists] at held
    obtain ⟨⟨context, hcontext⟩, -⟩ := held
    simp only [OpenSession.step, feedDigest, endMessages, hcontext]
    first | exact not_contradicts_ok _ | exact not_contradicts_judge _ _

/-! ## Steps of messages -/

private theorem holds_withParts {context : MessageContext} (hmessage : session.message = some context)
    (parts : Bytes) : (session.withParts context parts).holds o = session.holds o := by
  cases o <;> simp [holds, withParts, hmessage]

/-- A message step leaves a session with the contexts that it has. -/
theorem holds_messageStep (step : MessageStep) :
    (session.messageStep step).2.holds o = session.holds o := by
  cases hmessage : session.message with
  | none => cases step <;> simp only [messageStep, hmessage]
  | some context =>
    cases step with
    | encrypt _ _ _ | decrypt _ _ _ | sign _ _ | verify _ _ _ => simp only [messageStep, hmessage]
    | signNext _ _ last =>
      simp only [messageStep, hmessage]
      cases last <;> exact holds_withParts hmessage _
    | verifyNext _ _ signature =>
      simp only [messageStep, hmessage]
      cases signature <;> exact holds_withParts hmessage _
    | _ =>
      simp only [messageStep, hmessage]
      exact holds_withParts hmessage _

private theorem not_contradicts_checkTag (params : MessageParams) (aad ciphertext : Bytes) :
    ¬ Contradicts (checkTag params aad ciphertext) := by
  unfold checkTag
  split
  next => exact not_contradicts_ok ()
  next => exact not_contradicts_token (by decide) (by decide)

private theorem not_contradicts_map {α β : Type} {result : Except Error α} (other : ¬ Contradicts result)
    (f : α → β) : ¬ Contradicts (result.map f) := by
  rintro ⟨e, h, hrv⟩
  cases result with
  | error failure =>
    cases h
    exact other ⟨e, rfl, hrv⟩
  | ok a => cases h

/-- A message step with a context is not answered as if there were none. -/
theorem not_contradicts_messageStep {step : MessageStep} (held : session.message.isSome = true) :
    ¬ Contradicts (session.messageStep step).1.1 := by
  obtain ⟨context, hmessage⟩ := Option.isSome_iff_exists.1 held
  cases step with
  | decrypt _ _ _ =>
    simp only [messageStep, hmessage]
    exact not_contradicts_map (not_contradicts_checkTag _ _ _) _
  | decryptNext _ _ last =>
    simp only [messageStep, hmessage]
    cases last
    · exact not_contradicts_ok _
    · exact not_contradicts_map (not_contradicts_checkTag _ _ _) _
  | verify _ _ _ =>
    simp only [messageStep, hmessage]
    exact not_contradicts_judge _ _
  | signNext _ _ last =>
    simp only [messageStep, hmessage]
    cases last <;> exact not_contradicts_ok _
  | verifyNext _ _ signature =>
    simp only [messageStep, hmessage]
    cases signature
    · exact not_contradicts_ok ()
    · exact not_contradicts_judge _ _
  | _ =>
    simp only [messageStep, hmessage]
    exact not_contradicts_ok _

/-! ## Cancellation -/

/-- A context stays if its operation is not named, and that of the messages if none of theirs is. -/
theorem holds_cancel_of_holds (held : session.holds op = true) (unnamed : flags.meets op.cancelFlag = false)
    (messages : op.isMessage = true →
      ∀ o : Operation, o.isMessage = true → flags.meets o.cancelFlag = false) :
    (session.cancel flags).holds op = true := by
  have hmessages (message : op.isMessage = true) : flags.meets (Flag.messageEncrypt |||
      Flag.messageDecrypt ||| Flag.messageSign ||| Flag.messageVerify) = false := by
    simp only [Code.meets_or, Bool.or_eq_false_iff]
    exact ⟨⟨⟨messages message .messageEncrypt rfl, messages message .messageDecrypt rfl⟩,
      messages message .messageSign rfl⟩, messages message .messageVerify rfl⟩
  cases op with
  | messageEncrypt | messageDecrypt | messageSign | messageVerify =>
    simp only [holds, OpenSession.cancel, hmessages rfl]
    exact held
  | signRecover | verifyRecover => exact held
  | _ =>
    simp only [Operation.cancelFlag] at unnamed
    simp only [holds, OpenSession.cancel, unnamed]
    exact held

/-- Cancelling ends a search iff the flags name it. -/
theorem holds_find_cancel :
    (session.cancel flags).holds .find = (session.holds .find && !flags.meets Flag.findObjects) := by
  simp only [holds, OpenSession.cancel]
  cases flags.meets Flag.findObjects <;> simp

/-! ## Commands -/

/-- What a session answers to a command other than its close, and the session afterwards, if calls for handles
are to fail as `failure` says. -/
def Serves (session : OpenSession) (failure : Option Code) :
    (command : Command) → Except Error command.Result → OpenSession → Prop
  | .start start mechanism, result, later =>
    Rejects result ∧ later = session ∨
      result = .ok () ∧ implements (.start start mechanism) = true ∧
        ∃ key, later = session.start key start.operation
  | .step step, result, later =>
    Rejects result ∧ later = session ∨
      ∃ keyValue, result = (session.step keyValue step).1 ∧ later = (session.step keyValue step).2
  | .message step, result, later =>
    result = (session.messageStep step).1.1 ∧ later = (session.messageStep step).2
  | .sessionCancel flags, result, later => result = .ok () ∧ later = session.cancel flags
  | .setOperationState state _ _, result, later =>
    result = .ok () ∧ later = { session with digest := some state }
  | .findObjectsInit _, result, later =>
    session.holds .find = true ∧ later = session ∨
      session.holds .find = false ∧ result = .ok () ∧ ∃ found, later = { session with find := some found }
  | .findObjects _, result, later =>
    (∀ op, later.holds op = session.holds op) ∧
      (session.holds .find = true → failure = none → ∃ batch, result = .ok batch)
  | .findObjectsFinal, _, later => later = { session with find := none }
  | _, _, later => later = session

end OpenSession

variable {token : SoftToken} {handle : Code} {opened : OpenSession}

/-- A session the token knows is found. -/
theorem session_eq_ok (known : token.sessions.get? handle = some opened) :
    token.session handle = .ok opened := by
  rw [SoftToken.session, known]

/-- An update of a known session is done in its record. -/
theorem update_eq {α : Type} (known : token.sessions.get? handle = some opened)
    (f : OpenSession → Except Error α × OpenSession) :
    token.update handle f = ((f opened).1, token.withSession handle (f opened).2) := by
  rw [update, session_eq_ok known]

/-- The record written is the record found. -/
theorem get?_withSession (known : token.sessions.get? handle = some opened) (later : OpenSession) :
    (token.withSession handle later).sessions.get? handle = some later := by
  rw [withSession, Registry.get?_replace, if_pos rfl, known]
  rfl

/-- A command is answered out of a session. -/
def ServesAt (token : SoftToken) (handle : Code) (opened : OpenSession) (command : Command)
    (answered : Except Error command.Result × SoftToken) : Prop :=
  ∃ later, answered.2.sessions.get? handle = some later ∧
    opened.Serves token.findError command answered.1 later

/-- An update serves a command when its function of the record does. -/
private theorem servesAt_update {command : Command} (known : token.sessions.get? handle = some opened)
    {f : OpenSession → Except Error command.Result × OpenSession}
    (serves : opened.Serves token.findError command (f opened).1 (f opened).2) :
    token.ServesAt handle opened command (token.update handle f) := by
  rw [update_eq known]
  exact ⟨_, get?_withSession known _, serves⟩

private theorem rejects_error {α : Type} {rv : Code} (inits : rv ≠ Rv.operationNotInitialized)
    (active : rv ≠ Rv.operationActive) : Rejects (.error (.token rv) : Except Error α) :=
  ⟨⟨_, rfl⟩, not_contradicts_token inits active⟩

/-- A key that is not there rejects the call and changes nothing. -/
private theorem rejects_keyByte {α : Type} {key : Code} {e : Error} (h : token.keyByte key = .error e) :
    Rejects (.error e : Except Error α) := by
  unfold keyByte at h
  split at h
  next =>
    cases h
    exact rejects_error (by decide) (by decide)
  next =>
    split at h
    next => cases h
    next =>
      cases h
      exact rejects_error (by decide) (by decide)

/-- That a mechanism or a key will not do is no question of the operations that run. -/
theorem rejects_startKey {α : Type} {start : Start} {mechanism : Mechanism} {e : Error}
    (h : ((token.admitMechanism mechanism).1 >>= fun () => (token.admitMechanism mechanism).2.startKey start) =
      .error e) : Rejects (.error e : Except Error α) := by
  by_cases hmem : mechanism.code ∈ mechanismCodes
  · rw [show (token.admitMechanism mechanism).1 = .ok () from if_pos hmem] at h
    replace h : (token.admitMechanism mechanism).2.startKey start = .error e := h
    unfold startKey at h
    split at h
    next => exact rejects_keyByte h
    next => cases h
  · rw [show (token.admitMechanism mechanism).1 = .error (.token Rv.mechanismInvalid) from if_neg hmem] at h
    cases h
    exact rejects_error (by decide) (by decide)

/-- A start on a known session is served in its record. -/
theorem serves_start (known : token.sessions.get? handle = some opened) {start : Start}
    {mechanism : Mechanism} (served : implements (.start start mechanism) = true) :
    token.ServesAt handle opened (.start start mechanism) (token.start handle start mechanism) := by
  unfold SoftToken.start
  dsimp only
  split
  next e h => exact ⟨opened, known, .inl ⟨rejects_startKey h, rfl⟩⟩
  next key h =>
    refine @servesAt_update (token.admitMechanism mechanism).2 handle opened (.start start mechanism) known _ ?_
    exact .inr ⟨rfl, served, key, rfl⟩

/-- So is a step of an operation. -/
theorem serves_step (known : token.sessions.get? handle = some opened) (step : Step) :
    token.ServesAt handle opened (.step step) (token.step handle step) := by
  unfold SoftToken.step
  split
  next e h =>
    refine ⟨opened, known, .inl ⟨?_, rfl⟩⟩
    unfold digestedKey keyValue at h
    split at h
    next =>
      split at h
      next => cases h
      next =>
        cases h
        exact rejects_error (by decide) (by decide)
    next => cases h
  next keyValue _ => exact servesAt_update known (.inr ⟨keyValue, rfl, rfl⟩)

/-- So is a message step. -/
theorem serves_message (known : token.sessions.get? handle = some opened) (step : MessageStep) :
    token.ServesAt handle opened (.message step)
      ((token.message handle step).1.1, (token.message handle step).2) := by
  unfold SoftToken.message
  rw [session_eq_ok known]
  exact ⟨_, get?_withSession known _, rfl, rfl⟩

/-- So is the start of a search. -/
theorem serves_startFind (known : token.sessions.get? handle = some opened) (template : List WireAttribute) :
    token.ServesAt handle opened (.findObjectsInit template) (token.startFind handle template) := by
  apply servesAt_update known
  cases hfind : opened.find with
  | some pending => exact .inl ⟨by simp [OpenSession.holds, hfind], rfl⟩
  | none => exact .inr ⟨by simp [OpenSession.holds, hfind], rfl, _, rfl⟩

/-- A search stays open, whatever it gives. -/
theorem holds_of_find {pending : List Code} (hfind : opened.find = some pending) (rest : List Code)
    (op : Operation) : OpenSession.holds { opened with find := some rest } op = opened.holds op := by
  cases op <;> simp [OpenSession.holds, hfind]

/-- A pull of a search is served in the record of its session. -/
theorem serves_find (known : token.sessions.get? handle = some opened) (max : UInt64) :
    token.ServesAt handle opened (.findObjects max) (token.find handle max) := by
  unfold SoftToken.find
  dsimp only
  rw [@update_eq { token with findError := none } handle opened _ known]
  refine ⟨_, @get?_withSession { token with findError := none } handle opened known _, ?_⟩
  cases hfind : opened.find with
  | none =>
    refine ⟨fun _ => rfl, ?_⟩
    intro held
    simp [OpenSession.holds, hfind] at held
  | some pending =>
    cases hfailure : token.findError with
    | some rv =>
      refine ⟨fun _ => rfl, ?_⟩
      intro _ h
      cases h
    | none => exact ⟨holds_of_find hfind _, fun _ _ => ⟨_, rfl⟩⟩

/-- So is its end. -/
theorem serves_endFind (known : token.sessions.get? handle = some opened) :
    token.ServesAt handle opened .findObjectsFinal (token.endFind handle) := by
  apply servesAt_update known
  cases hfind : opened.find with
  | some pending => rfl
  | none =>
    show opened = { opened with find := none }
    rw [← hfind]

/-! ## All commands -/

/-- Whether a command reaches into a session. -/
def reaches : Command → Bool
  | .closeSession | .sessionCancel _ | .setOperationState _ _ _ | .start _ _ | .step _ | .message _ => true
  | .findObjectsInit _ | .findObjects _ | .findObjectsFinal => true
  | _ => false

/-- Most commands leave the sessions alone, and the failure that is set for searches. -/
theorem unchanged_command {command : Command} (other : reaches command = false) (token : SoftToken)
    (handle : Code) : (token.command handle command).2.sessions = token.sessions ∧
      (token.command handle command).2.findError = token.findError := by
  cases command with
  | closeSession | sessionCancel _ | setOperationState _ _ _ | start _ _ | step _ | message _ => cases other
  | findObjectsInit _ | findObjects _ | findObjectsFinal => cases other
  | login _ _ | logout | createObject _ | copyObject _ _ | destroyObject _ | setAttributeValue _ _
  | generateKey _ _ | generateKeyPair _ _ _ =>
    simp only [SoftToken.command, SoftToken.plainly, login, logout, createObject, copyObject, destroyObject,
      setAttributes, generateKey, generateKeyPair]
    repeat' split
    all_goals exact ⟨rfl, rfl⟩
  | _ => exact ⟨rfl, rfl⟩

/-- Every command but the close is answered out of the session. -/
theorem serves_command {command : Command} (known : token.sessions.get? handle = some opened)
    (other : command ≠ .closeSession) (served : implements command = true) :
    token.ServesAt handle opened command
      ((token.command handle command).1.result, (token.command handle command).2) := by
  by_cases hreaches : reaches command = true
  · cases command with
    | closeSession => exact absurd rfl other
    | sessionCancel flags =>
      exact @servesAt_update token handle opened (.sessionCancel flags) known _ ⟨rfl, rfl⟩
    | setOperationState state encryptionKey authenticationKey =>
      exact @servesAt_update token handle opened (.setOperationState state encryptionKey authenticationKey)
        known _ ⟨rfl, rfl⟩
    | start start mechanism => exact serves_start known served
    | step step => exact serves_step known step
    | message step => exact serves_message known step
    | findObjectsInit template => exact serves_startFind known template
    | findObjects max => exact serves_find known max
    | findObjectsFinal => exact serves_endFind known
    | _ => cases hreaches
  · have hfalse := Bool.eq_false_iff.2 hreaches
    refine ⟨opened, by rwa [(unchanged_command hfalse token handle).1], ?_⟩
    cases command with
    | closeSession | sessionCancel _ | setOperationState _ _ _ | start _ _ | step _ | message _ =>
      cases hfalse
    | findObjectsInit _ | findObjects _ | findObjectsFinal => cases hfalse
    | _ => rfl

/-- The token answers every command but the close out of the session, those it leaves out included. -/
theorem serves_answer {command : Command} (known : token.sessions.get? handle = some opened)
    (other : command ≠ .closeSession) :
    token.ServesAt handle opened command
      ((token.answer (.inSession handle command)).1.result,
        (token.answer (.inSession handle command)).2) := by
  dsimp only [SoftToken.answer]
  split
  next served => exact @serves_command (token.count command.name) handle opened command known other served
  next omitted =>
    refine ⟨opened, known, ?_⟩
    cases command with
    | closeSession => exact absurd rfl other
    | start _ _ | step _ => exact .inl ⟨rejects_error (by decide) (by decide), rfl⟩
    | sessionCancel _ | setOperationState _ _ _ | message _ | findObjectsInit _ | findObjects _
    | findObjectsFinal => exact absurd rfl omitted
    | _ => rfl

private theorem findError_update {α : Type} (token : SoftToken) (handle : Code)
    (f : OpenSession → Except Error α × OpenSession) :
    (token.update handle f).2.findError = token.findError := by
  unfold update
  split <;> rfl

/-- No call sets a failure for searches. -/
theorem findError_answer (unset : token.findError = none) (handle : Code) (command : Command) :
    (token.answer (.inSession handle command)).2.findError = none := by
  dsimp only [SoftToken.answer]
  split
  next =>
    have hcount : (token.count command.name).findError = none := unset
    revert hcount
    generalize token.count command.name = counted
    intro hcount
    cases command with
    | closeSession => exact hcount
    | sessionCancel _ | setOperationState _ _ _ | findObjectsInit _ | findObjectsFinal =>
      exact (findError_update counted handle _).trans hcount
    | findObjects max => exact findError_update { counted with findError := none } handle _
    | start start mechanism =>
      show (counted.start handle start mechanism).2.findError = none
      unfold SoftToken.start
      dsimp only
      split
      next => exact hcount
      next => exact (findError_update _ handle _).trans hcount
    | step step =>
      show (counted.step handle step).2.findError = none
      unfold SoftToken.step
      split
      next => exact hcount
      next => exact (findError_update _ handle _).trans hcount
    | message step =>
      show (counted.message handle step).2.findError = none
      unfold SoftToken.message
      split <;> exact hcount
    | _ => exact (unchanged_command rfl counted handle).2.trans hcount
  next => exact unset

end SoftToken

end TokenClient
