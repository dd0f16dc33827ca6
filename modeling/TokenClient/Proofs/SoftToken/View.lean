import TokenClient.Proofs.Session.Dialogue
import TokenClient.Proofs.SoftToken.Contexts
import TokenClient.Proofs.SoftToken.Reach

/-!
# What a session sees of the token

A command of an operation is answered out of the session under its handle and the objects, and of these two it
changes the session alone. So the two are all that a session sees of the token (`SoftToken.view`). Tokens that
look the same to it answer it in the same way (`SoftToken.command_sameFor`), and what is asked under other
handles it does not see (`SoftToken.view_command_other`). Both carry over to programs.

Where the session is known, a call on it comes to what the session on the token makes of it
(`SoftToken.run_start`, `SoftToken.run_step`, `SoftToken.run_message`).
-/

namespace TokenClient

/-- The commands that carry operations on: starts, steps, steps of messages and cancellations. -/
def Command.IsCryptographic : Command → Prop
  | .start _ _ | .step _ | .message _ | .sessionCancel _ => True
  | _ => False

/-- The calls that carry operations on under a handle. -/
def Call.IsCryptographic (handle : Code) : Call → Prop
  | .inSession own command => own = handle ∧ command.IsCryptographic
  | _ => False

namespace SoftToken

/-- The session under a handle, and the objects. -/
def view (token : SoftToken) (handle : Code) : Option OpenSession × Registry StoredObject :=
  (token.sessions.get? handle, token.objects)

/-- Two answers are the same, and so are the tokens after them, as far as a session sees. -/
def SameFor {α : Type} (handle : Code) (first second : α × SoftToken) : Prop :=
  first.1 = second.1 ∧ first.2.view handle = second.2.view handle

variable {α : Type} {token other : SoftToken} {handle own : Code} {opened : OpenSession}
  {objects : Registry StoredObject} {command : Command}

/-! ## Under other handles -/

/-- Writing the record of another session changes nothing seen. -/
private theorem view_withSession_other (apart : own ≠ handle) (later : OpenSession) :
    (token.withSession own later).view handle = token.view handle := by
  rw [view, withSession, Registry.get?_replace, if_neg apart]
  rfl

/-- Nor does updating it. -/
private theorem view_update_other (apart : own ≠ handle) (f : OpenSession → Except Error α × OpenSession) :
    (token.update own f).2.view handle = token.view handle := by
  unfold update
  split
  next => rfl
  next opened _ => exact view_withSession_other apart _

/-- A session does not see the operations under another handle. -/
theorem view_command_other (crypto : command.IsCryptographic) (apart : own ≠ handle) (token : SoftToken) :
    (token.command own command).2.view handle = token.view handle := by
  cases command with
  | sessionCancel flags => exact view_update_other apart _
  | start start mechanism =>
    show (token.start own start mechanism).2.view handle = token.view handle
    unfold SoftToken.start
    dsimp only
    split
    next => rfl
    next key _ =>
      exact @view_update_other _ (token.admitMechanism mechanism).2 _ _ apart _
  | step step =>
    show (token.step own step).2.view handle = token.view handle
    unfold SoftToken.step
    split
    next => rfl
    next => exact view_update_other apart _
  | message step =>
    show (token.message own step).2.view handle = token.view handle
    unfold SoftToken.message
    split
    next => rfl
    next => exact view_withSession_other apart _
  | _ => exact crypto.elim

/-! ## Under the same handle -/

/-- Outcomes that are the same for a handle stay so under a map. -/
theorem SameFor.map {β : Type} {first second : α × SoftToken} (same : SameFor handle first second)
    (f : α → β) : SameFor handle (f first.1, first.2) (f second.1, second.2) :=
  ⟨congrArg f same.1, same.2⟩

private theorem session_congr (same : token.view handle = other.view handle) :
    token.session handle = other.session handle := by
  rw [SoftToken.session, SoftToken.session, (Prod.mk.inj same).1]

/-- A session sees its own record and the objects. -/
theorem view_of_known (known : token.sessions.get? handle = some opened) :
    token.view handle = (some opened, token.objects) :=
  congrArg (·, token.objects) known

private theorem view_of_session (known : token.session handle = .ok opened) :
    token.view handle = (some opened, token.objects) := by
  unfold SoftToken.session at known
  split at known <;> cases known
  next h => exact view_of_known h

private theorem view_withSession (seen : token.view handle = (some opened, objects)) (later : OpenSession) :
    (token.withSession handle later).view handle = (some later, objects) := by
  obtain ⟨known, rfl⟩ := Prod.mk.inj seen
  exact view_of_known (get?_withSession known later)

private theorem session_of_view (seen : token.view handle = (some opened, objects)) :
    token.session handle = .ok opened :=
  session_eq_ok (Prod.mk.inj seen).1

private theorem withSession_congr (same : token.view handle = other.view handle)
    (known : token.session handle = .ok opened) (later : OpenSession) :
    (token.withSession handle later).view handle = (other.withSession handle later).view handle := by
  have seen := view_of_session known
  rw [view_withSession seen, view_withSession (same ▸ seen)]

/-- An update gives the same where the same is seen. -/
private theorem update_sameFor (same : token.view handle = other.view handle)
    (f : OpenSession → Except Error α × OpenSession) :
    SameFor handle (token.update handle f) (other.update handle f) := by
  unfold update
  rw [← session_congr same]
  split
  next => exact ⟨rfl, same⟩
  next opened known => exact ⟨rfl, withSession_congr same known _⟩

private theorem keyByte_congr (same : token.objects = other.objects) (key : Code) :
    token.keyByte key = other.keyByte key := by
  rw [keyByte, keyByte, same]

/-- The key of a start is found among the objects alone. -/
theorem startKey_congr (same : token.objects = other.objects) (start : Start) :
    token.startKey start = other.startKey start := by
  unfold startKey
  split
  next key _ => exact keyByte_congr same key
  next => rfl

private theorem digestedKey_congr (same : token.objects = other.objects) (step : Step) :
    token.digestedKey step = other.digestedKey step := by
  unfold digestedKey
  split
  next key => rw [keyValue, keyValue, same]
  next => rfl

private theorem start_sameFor (same : token.view handle = other.view handle) (start : Start) (mechanism : Mechanism) :
    SameFor handle (token.start handle start mechanism) (other.start handle start mechanism) := by
  -- the mechanism is noted on both tokens, where no session sees it
  have noted : (token.admitMechanism mechanism).2.view handle = (other.admitMechanism mechanism).2.view handle :=
    same
  unfold SoftToken.start
  dsimp only
  rw [show (other.admitMechanism mechanism).1 = (token.admitMechanism mechanism).1 from rfl,
    ← startKey_congr (Prod.mk.inj noted).2 start]
  split
  next => exact ⟨rfl, same⟩
  next key _ => exact update_sameFor noted _

private theorem step_sameFor (same : token.view handle = other.view handle) (step : Step) :
    SameFor handle (token.step handle step) (other.step handle step) := by
  unfold SoftToken.step
  rw [← digestedKey_congr (Prod.mk.inj same).2]
  split
  next => exact ⟨rfl, same⟩
  next => exact update_sameFor same _

private theorem message_sameFor (same : token.view handle = other.view handle) (step : MessageStep) :
    SameFor handle (token.message handle step) (other.message handle step) := by
  unfold SoftToken.message
  rw [← session_congr same]
  split
  next => exact ⟨rfl, same⟩
  next opened known => exact ⟨rfl, withSession_congr same known _⟩

/-- Tokens that look the same to a session answer it in the same way. -/
theorem command_sameFor (crypto : command.IsCryptographic) (same : token.view handle = other.view handle) :
    SameFor handle (token.command handle command) (other.command handle command) := by
  cases command with
  | sessionCancel flags =>
    exact (update_sameFor same _).map fun result =>
      (⟨result, ()⟩ : Reply (.inSession handle (.sessionCancel flags)))
  | start start mechanism =>
    exact (start_sameFor same start mechanism).map fun result =>
      (⟨result, ()⟩ : Reply (.inSession handle (.start start mechanism)))
  | step step =>
    exact (step_sameFor same step).map fun result => (⟨result, ()⟩ : Reply (.inSession handle (.step step)))
  | message step =>
    exact (message_sameFor same step).map fun answer =>
      (⟨answer.1, answer.2⟩ : Reply (.inSession handle (.message step)))
  | _ => exact crypto.elim

/-! ## Calls and programs -/

/-- An answer to a session depends on what the session sees, and on nothing else. -/
theorem answer_sameFor (crypto : command.IsCryptographic) (same : token.view handle = other.view handle) :
    SameFor handle (token.answer (.inSession handle command)) (other.answer (.inSession handle command)) := by
  dsimp only [SoftToken.answer]
  split
  next =>
    have counted : (token.count command.name).view handle = (other.count command.name).view handle := same
    exact command_sameFor crypto counted
  next => exact ⟨rfl, same⟩

/-- An answer to one session changes nothing another sees. -/
theorem view_answer_other (crypto : command.IsCryptographic) (apart : own ≠ handle) (token : SoftToken) :
    (token.answer (.inSession own command)).2.view handle = token.view handle := by
  dsimp only [SoftToken.answer]
  split
  next => exact view_command_other crypto apart (token.count command.name)
  next => rfl

variable {p : Program α}

/-- A program goes the same way on tokens that look the same to the session that it is about. -/
theorem run_sameFor (calls : p.AllCalls (Call.IsCryptographic handle))
    (same : token.view handle = other.view handle) :
    SameFor handle (p.run SoftToken.module token) (p.run SoftToken.module other) := by
  induction p generalizing token other with
  | done a => exact ⟨rfl, same⟩
  | ask call next ih =>
    obtain ⟨hcall, hnext⟩ := calls
    cases call with
    | inSession own command =>
      obtain ⟨rfl, crypto⟩ := hcall
      obtain ⟨hreply, hview⟩ := answer_sameFor crypto same
      rw [Program.run, Program.run, show SoftToken.module.answer _ other =
        other.answer (.inSession own command) from rfl, ← hreply]
      exact ih _ (hnext _) hview
    | _ => exact hcall.elim

/-- A session does not see a program of operations under another handle. -/
theorem view_run_other (calls : p.AllCalls (Call.IsCryptographic own)) (apart : own ≠ handle)
    (token : SoftToken) : (p.run SoftToken.module token).2.view handle = token.view handle := by
  induction p generalizing token with
  | done a => rfl
  | ask call next ih =>
    obtain ⟨hcall, hnext⟩ := calls
    cases call with
    | inSession handle' command =>
      obtain ⟨rfl, crypto⟩ := hcall
      exact (ih _ (hnext _) _).trans (view_answer_other crypto apart token)
    | _ => exact hcall.elim

/-! ## Calls on a session that is known -/

section Known

variable (seen : token.view handle = (some opened, objects))

include seen

/-- What an update of a seen session gives, and what is seen afterwards. -/
private theorem view_update (f : OpenSession → Except Error α × OpenSession) :
    (token.update handle f).1 = (f opened).1 ∧
      (token.update handle f).2.view handle = (some (f opened).2, objects) := by
  rw [update, session_of_view seen]
  exact ⟨rfl, view_withSession seen _⟩

/-- The same of a start that is supported and has its key. -/
private theorem view_start {start : Start} {mechanism : Mechanism} {key : UInt8}
    (supported : mechanism.code ∈ mechanismCodes) (keyed : token.startKey start = .ok key) :
    (token.start handle start mechanism).1 = .ok () ∧
      (token.start handle start mechanism).2.view handle =
        (some (opened.start key start.operation), objects) := by
  have hkey : (token.admitMechanism mechanism).2.startKey start = .ok key :=
    (startKey_congr rfl start).trans keyed
  have hadmitted : ((token.admitMechanism mechanism).1 >>= fun () =>
      (token.admitMechanism mechanism).2.startKey start) = .ok key := by
    rw [show (token.admitMechanism mechanism).1 = .ok () from if_pos supported]
    exact hkey
  rw [SoftToken.start]
  dsimp only
  rw [hadmitted]
  exact @view_update _ (token.admitMechanism mechanism).2 _ _ _ seen _

/-- The same of a step. -/
private theorem view_step {step : Step} {keyValue : Bytes} (keyed : token.digestedKey step = .ok keyValue) :
    (token.step handle step).1 = (opened.step keyValue step).1 ∧
      (token.step handle step).2.view handle = (some (opened.step keyValue step).2, objects) := by
  rw [SoftToken.step, keyed]
  exact view_update seen _

/-- The same of a message step. -/
private theorem view_message (step : MessageStep) :
    (token.message handle step).1 = (opened.messageStep step).1 ∧
      (token.message handle step).2.view handle = (some (opened.messageStep step).2, objects) := by
  rw [SoftToken.message, session_of_view seen]
  exact ⟨rfl, view_withSession seen _⟩

end Known

/-- A command the token implements is counted and carried out. -/
private theorem answer_of_implements (served : implements command = true) :
    SoftToken.module.answer (.inSession handle command) token =
      (token.count command.name).command handle command :=
  if_pos served

section Known

variable {session : Session} (isOpen : session.handle = some handle)
  (seen : token.view handle = (some opened, objects))

include isOpen seen

/-- An operation starts if the tracker lets it, with a mechanism that the token has and a key that is there. -/
theorem run_start {start : Start} {mechanism : Mechanism} {key : UInt8}
    (admits : session.tracker.checkStart start.operation = .ok ())
    (supported : (session.wireMechanism mechanism).code ∈ mechanismCodes)
    (keyed : token.startKey start = .ok key)
    (served : implements (.start start (session.wireMechanism mechanism)) = true) :
    ∃ later, (session.start start mechanism).run SoftToken.module token =
        ((.ok (), { session with tracker := session.tracker.start start.operation }), later) ∧
      later.view handle = (some (opened.start key start.operation), objects) := by
  obtain ⟨hresult, hview⟩ := @view_start (token.count (Command.name (.start start _))) handle opened objects
    seen start (session.wireMechanism mechanism) key supported keyed
  refine ⟨_, ?_, hview⟩
  unfold Session.start
  rw [Session.openHandle_of_open isOpen]
  dsimp only
  rw [admits]
  dsimp only
  rw [Program.run_map, Program.run_request, answer_of_implements served]
  dsimp only [SoftToken.command, SoftToken.plainly]
  rw [hresult]

/-- A step that the tracker lets through comes to what the session on the token makes of it. -/
theorem run_step {step : Step} {keyValue : Bytes}
    (admits : session.tracker.checkAll step.operations = .ok ())
    (keyed : token.digestedKey step = .ok keyValue) (served : implements (.step step) = true) :
    ∃ later, (session.step step).run SoftToken.module token =
        ((Session.settle step.verifies (opened.step keyValue step).1,
          session.afterStep step (opened.step keyValue step).1.isOk), later) ∧
      later.view handle = (some (opened.step keyValue step).2, objects) := by
  obtain ⟨hresult, hview⟩ := @view_step (token.count (Command.name (.step step))) handle opened objects
    seen step keyValue keyed
  refine ⟨_, ?_, hview⟩
  unfold Session.step
  rw [Session.openHandle_of_open isOpen]
  dsimp only
  rw [admits]
  dsimp only
  rw [Program.run_map, Program.run_request, answer_of_implements served]
  dsimp only [SoftToken.command, SoftToken.plainly]
  rw [hresult]

/-- The same holds of message steps. -/
theorem run_message {step : MessageStep}
    (admits : session.tracker.checkMessage step.operation step.place = .ok ()) :
    ∃ later, (session.message step).run SoftToken.module token =
        (((Session.settle step.verifies (opened.messageStep step).1.1, (opened.messageStep step).1.2),
          session.afterMessage step (opened.messageStep step).1.1.isOk), later) ∧
      later.view handle = (some (opened.messageStep step).2, objects) := by
  obtain ⟨hresult, hview⟩ := @view_message (token.count (Command.name (.message step))) handle opened objects
    seen step
  refine ⟨_, ?_, hview⟩
  unfold Session.message
  rw [Session.admitMessage_eq_ok_iff.2 ⟨isOpen, admits⟩]
  dsimp only
  rw [Program.run, answer_of_implements rfl, ← hresult]
  rfl

end Known

/-! ## Calls on a session of which something is known -/

/-- The session is open, something holds of what the token has for it, and the token has these objects. -/
def Sees (session : Session) (token : SoftToken) (objects : Registry StoredObject) (P : OpenSession → Prop) :
    Prop :=
  ∃ handle opened, session.handle = some handle ∧ token.view handle = (some opened, objects) ∧ P opened

variable {session : Session} {P Q : OpenSession → Prop}

/-- An operation starts, if the tracker lets it and its key is there. -/
theorem Sees.start (sees : Sees session token objects P) {start : Start} {mechanism : Mechanism} {key : UInt8}
    (admits : session.tracker.checkStart start.operation = .ok ())
    (supported : (session.wireMechanism mechanism).code ∈ mechanismCodes)
    (keyed : token.startKey start = .ok key)
    (served : implements (.start start (session.wireMechanism mechanism)) = true)
    (starts : ∀ opened, P opened → Q (opened.start key start.operation)) :
    ∃ later, (session.start start mechanism).run SoftToken.module token =
        ((.ok (), { session with tracker := session.tracker.start start.operation }), later) ∧
      Sees { session with tracker := session.tracker.start start.operation } later objects Q := by
  obtain ⟨handle, opened, isOpen, seen, known⟩ := sees
  obtain ⟨later, hrun, hview⟩ := run_start isOpen seen admits supported keyed served
  exact ⟨later, hrun, handle, _, isOpen, hview, starts opened known⟩

/-- No step changes the handle of a session. -/
theorem handle_afterStep (session : Session) (step : Step) (succeeded : Bool) :
    (session.afterStep step succeeded).handle = session.handle := by
  unfold Session.afterStep
  split <;> rfl

/-- A step of operations that run is answered out of what is known of the session on the token. -/
theorem Sees.step (sees : Sees session token objects P) {step : Step} {result : Except Error step.Result}
    (active : ∀ op ∈ step.operations, session.active.contains op = true)
    (keyed : token.digestedKey step = .ok []) (served : implements (.step step) = true)
    (settled : Session.settle step.verifies result = result)
    (answers : ∀ opened, P opened → (opened.step [] step).1 = result ∧ Q (opened.step [] step).2) :
    ∃ later, (session.step step).run SoftToken.module token =
        ((result, session.afterStep step result.isOk), later) ∧
      Sees (session.afterStep step result.isOk) later objects Q := by
  obtain ⟨handle, opened, isOpen, seen, known⟩ := sees
  obtain ⟨later, hrun, hview⟩ :=
    run_step isOpen seen ((session.tracker.checkAll_eq_ok_iff _).2 active) keyed served
  obtain ⟨rfl, hnext⟩ := answers opened known
  rw [settled] at hrun
  exact ⟨later, hrun, handle, _, (handle_afterStep _ _ _).trans isOpen, hview, hnext⟩

/-- The last step of an operation is answered in the same way, and ends it. -/
theorem Sees.ended (sees : Sees session token objects P) {op : Operation} {step : Step}
    {result : Except Error step.Result} (own : step.operations = [op]) (last : step.isLast = true)
    (active : session.active.contains op = true) (keyed : token.digestedKey step = .ok [])
    (served : implements (.step step) = true) (settled : Session.settle step.verifies result = result)
    (answers : ∀ opened, P opened → (opened.step [] step).1 = result ∧ Q (opened.step [] step).2) :
    ∃ later, (session.step step).run SoftToken.module token =
        ((result, { session with tracker := session.tracker.finish (.ofList [op]) }), later) ∧
      Sees { session with tracker := session.tracker.finish (.ofList [op]) } later objects Q := by
  have running : ∀ op ∈ step.operations, session.active.contains op = true := by
    rw [own]
    exact List.forall_mem_singleton.2 active
  have ends : session.afterStep step result.isOk =
      { session with tracker := session.tracker.finish (.ofList [op]) } := by
    rw [Session.afterStep, last, own]
    rfl
  obtain ⟨later, hrun, hsees⟩ := sees.step running keyed served settled answers
  rw [ends] at hrun hsees
  exact ⟨later, hrun, hsees⟩

/-- So is a message step that may come now. -/
theorem Sees.message (sees : Sees session token objects P) {step : MessageStep}
    {answer : Except Error step.Result × step.Written}
    (admits : session.tracker.checkMessage step.operation step.place = .ok ())
    (settled : Session.settle step.verifies answer.1 = answer.1)
    (answers : ∀ opened, P opened → (opened.messageStep step).1 = answer ∧ Q (opened.messageStep step).2) :
    ∃ later, (session.message step).run SoftToken.module token =
        ((answer, session.afterMessage step answer.1.isOk), later) ∧
      Sees (session.afterMessage step answer.1.isOk) later objects Q := by
  obtain ⟨handle, opened, isOpen, seen, known⟩ := sees
  obtain ⟨later, hrun, hview⟩ := run_message isOpen seen admits
  obtain ⟨rfl, hnext⟩ := answers opened known
  rw [settled] at hrun
  exact ⟨later, hrun, handle, _, isOpen, hview, hnext⟩

end SoftToken

end TokenClient
