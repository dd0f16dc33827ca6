import TokenClient.Proofs.SoftToken.MessageParts

/-!
# Signatures

Data is signed or verified at once or in chunks, and as a message that is given whole or in parts. All of these
come to one signature, which is the code of the data under the byte of the key, and a verification accepts this
signature and no other (`SoftToken.signatures_agree`).

The token has what has been fed behind the byte of the key, or it keeps the parts of a message apart from it and
drops them when the next message begins. In both cases the hash at the end is of the key byte and then all of the
data. A chunk or a part appends to these bytes, and the chunks and the parts follow by induction.
-/

namespace TokenClient

open SoftToken

/-- What data is given to the token for: to be signed, or to find out whether a signature of it is right. -/
inductive Task where
  | sign
  | verify (signature : Bytes)

/-- How data is given to the token: to an operation that ends with it, or as one message of many. -/
inductive Manner where
  | stream
  | messages
deriving DecidableEq

/-- Data on its way to the token: at once or in chunks, as a message that is whole or in parts. A message in parts
has a last one. -/
inductive Delivery where
  | whole (data : Bytes)
  | chunks (chunks : List Bytes)
  | message (params : Option MechanismParams) (data : Bytes)
  | parts (params : Option MechanismParams) (parts : List Bytes) (last : Bytes)

namespace Delivery

/-- All of the data. -/
def data : Delivery → Bytes
  | whole data | message _ data => data
  | chunks cs => cs.flatten
  | parts _ ps last => ps.flatten ++ last

def manner : Delivery → Manner
  | whole _ | chunks _ => .stream
  | message _ _ | parts _ _ _ => .messages

end Delivery

namespace Session

/-- Takes a message step that writes nothing of use. -/
def plainMessage (session : Session) (step : MessageStep) : Action step.Result :=
  (session.message step).map fun ((result, _), session) => (result, session)

end Session

namespace Task

/-- What a task is to yield. -/
@[reducible]
def Result : Task → Type
  | sign => Bytes
  | verify _ => Unit

/-- The operation that a task needs. -/
def operation : Manner → Task → Operation
  | .stream, sign => .sign
  | .stream, verify _ => .verify
  | .messages, sign => .messageSign
  | .messages, verify _ => .messageVerify

/-- The start of the operation with a key. -/
def start (key : Code) : Manner → Task → Start
  | .stream, sign => .sign key
  | .stream, verify _ => .verify key
  | .messages, sign => .messageSign key
  | .messages, verify _ => .messageVerify key

/-- What a task yields if the signature of the data is `signature`. -/
def answer (signature : Bytes) : (task : Task) → Except Error task.Result
  | sign => .ok signature
  | verify given => judge signature given

/-- What a task yields before all of the data is there. -/
def nothing : (task : Task) → task.Result
  | sign => []
  | verify _ => ()

/-- What the token has been fed for a task, the byte of the key first. -/
def context : Task → OpenSession → Option Bytes
  | sign => OpenSession.sign
  | verify _ => OpenSession.verify

variable (session : Session) (params : Option MechanismParams)

/-- Gives data at once. -/
def whole (data : Bytes) : (task : Task) → Session.Action task.Result
  | sign => session.step (.sign data)
  | verify signature => session.step (.verify data signature)

/-- Gives a chunk of data. -/
def chunk (data : Bytes) : Task → Session.Action Unit
  | sign => session.step (.signUpdate data)
  | verify _ => session.step (.verifyUpdate data)

/-- Ends the operation. -/
def final : (task : Task) → Session.Action task.Result
  | sign => session.step .signFinal
  | verify signature => session.step (.verifyFinal signature)

/-- Gives a whole message. -/
def message (data : Bytes) : (task : Task) → Session.Action task.Result
  | sign => session.plainMessage (.sign params data)
  | verify signature => session.plainMessage (.verify params data signature)

/-- Begins a message. -/
def beginMessage : Task → Session.Action Unit
  | sign => session.plainMessage (.signBegin params)
  | verify _ => session.plainMessage (.verifyBegin params)

/-- Gives a part of a message that is not the last one. -/
def part (data : Bytes) : (task : Task) → Session.Action task.Result
  | sign => session.plainMessage (.signNext params data false)
  | verify _ => session.plainMessage (.verifyNext params data none)

/-- Gives the last part of a message. -/
def lastPart (data : Bytes) : (task : Task) → Session.Action task.Result
  | sign => session.plainMessage (.signNext params data true)
  | verify signature => session.plainMessage (.verifyNext params data (some signature))

/-- Gives chunks one after the other. -/
def chunks (task : Task) (session : Session) : List Bytes → Session.Action Unit
  | [] => .done (.ok (), session)
  | data :: more =>
    Session.followed (task.chunk session data) fun session () => task.chunks session more

/-- Gives parts of a message one after the other, then the last one. -/
def parts (task : Task) (params : Option MechanismParams) (last : Bytes) (session : Session) :
    List Bytes → Session.Action task.Result
  | [] => task.lastPart session params last
  | data :: more =>
    Session.followed (task.part session params data) fun session _ => task.parts params last session more

/-- Gives data to the token. -/
def carryOut (task : Task) : Delivery → Session.Action task.Result
  | .whole data => task.whole session data
  | .chunks chunks => Session.followed (task.chunks session chunks) fun session () => task.final session
  | .message params data => task.message session params data
  | .parts params parts last =>
    Session.followed (task.beginMessage session params) fun session () => task.parts params last session parts

/-- The session after a task: an operation that is fed ends with it, one that takes messages goes on. -/
def after (task : Task) : Manner → Session
  | .stream => { session with tracker := session.tracker.finish (.ofList [task.operation .stream]) }
  | .messages => session

end Task

namespace SoftToken

variable {task : Task} {k : UInt8} {bytes kept : Bytes} {begun : Bool} {session : Session} {token : SoftToken}

/-- The verdict of the token comes through as it is. -/
theorem settle_judge (expected given : Bytes) :
    Session.settle true (judge expected given) = judge expected given := by
  unfold judge
  split <;> rfl

/-! ## Streams -/

/-- The operation of a task runs on an open session, here and on the token, which has been fed some bytes. -/
structure Fed (task : Task) (bytes : Bytes) (session : Session) (token : SoftToken) : Prop where
  active : session.active.contains (task.operation .stream) = true
  sees : ∃ objects, Sees session token objects fun opened => task.context opened = some bytes

/-- A chunk is appended to what has been fed. -/
theorem Fed.chunk (fed : Fed task bytes session token) (data : Bytes) :
    ∃ later, (task.chunk session data).run SoftToken.module token = ((.ok (), session), later) ∧
      Fed task (bytes ++ data) session later := by
  obtain ⟨active, objects, sees⟩ := fed
  suffices ∃ later, (task.chunk session data).run SoftToken.module token = ((.ok (), session), later) ∧
      Sees session later objects fun opened => task.context opened = some (bytes ++ data) by
    obtain ⟨later, hrun, hsees⟩ := this
    exact ⟨later, hrun, active, objects, hsees⟩
  cases task with
  | sign =>
    refine sees.step (List.forall_mem_singleton.2 active) rfl rfl rfl fun opened h => ?_
    change opened.sign = some bytes at h
    simp [OpenSession.step, Task.context, h]
  | verify given =>
    refine sees.step (List.forall_mem_singleton.2 active) rfl rfl rfl fun opened h => ?_
    change opened.verify = some bytes at h
    simp [OpenSession.step, Task.context, h]

/-- Chunks are fed one after the other. -/
theorem Fed.chunks (fed : Fed task bytes session token) (chunks : List Bytes) :
    ∃ later, (task.chunks session chunks).run SoftToken.module token = ((.ok (), session), later) ∧
      Fed task (bytes ++ chunks.flatten) session later := by
  induction chunks generalizing bytes token with
  | nil => exact ⟨token, rfl, by rwa [List.flatten_nil, List.append_nil]⟩
  | cons data more ih =>
    obtain ⟨middle, hfirst, hfed⟩ := fed.chunk data
    obtain ⟨later, hrest, hlast⟩ := ih hfed
    refine ⟨later, ?_, by rwa [List.flatten_cons, ← List.append_assoc]⟩
    rw [Task.chunks, run_followed hfirst, hrest]

/-- With the last step the operation ends, and its result is what the token makes of what it has been fed. -/
theorem Fed.ends (fed : Fed task bytes session token) (step : Step) (result : Except Error step.Result)
    (own : step.operations = [task.operation .stream]) (last : step.isLast = true)
    (keyed : token.digestedKey step = .ok []) (served : implements (.step step) = true)
    (settled : Session.settle step.verifies result = result)
    (answers : ∀ opened, task.context opened = some bytes → (opened.step [] step).1 = result) :
    ∃ later, (session.step step).run SoftToken.module token = ((result, task.after session .stream), later) := by
  obtain ⟨active, objects, sees⟩ := fed
  obtain ⟨later, hrun, -⟩ := sees.ended (Q := fun _ => True) own last active keyed served settled
    fun opened h => ⟨answers opened h, trivial⟩
  exact ⟨later, hrun⟩

/-- Data at once comes to the hash of all that has been fed. -/
theorem Fed.whole (fed : Fed task bytes session token) (data : Bytes) :
    ∃ later, (task.whole session data).run SoftToken.module token =
      ((task.answer (hash (bytes ++ data)), task.after session .stream), later) := by
  cases task with
  | sign =>
    refine fed.ends (.sign data) (.ok _) rfl rfl rfl rfl rfl fun opened h => ?_
    change opened.sign = some bytes at h
    simp [OpenSession.step, h]
  | verify given =>
    refine fed.ends (.verify data given) (judge _ given) rfl rfl rfl rfl (settle_judge _ _) fun opened h => ?_
    change opened.verify = some bytes at h
    simp [OpenSession.step, h]

/-- The final step judges or signs all the bytes fed. -/
theorem Fed.final (fed : Fed task bytes session token) :
    ∃ later, (task.final session).run SoftToken.module token =
      ((task.answer (hash bytes), task.after session .stream), later) := by
  cases task with
  | sign =>
    refine fed.ends .signFinal (.ok _) rfl rfl rfl rfl rfl fun opened h => ?_
    change opened.sign = some bytes at h
    simp [OpenSession.step, h]
  | verify given =>
    refine fed.ends (.verifyFinal given) (judge _ given) rfl rfl rfl rfl (settle_judge _ _) fun opened h => ?_
    change opened.verify = some bytes at h
    simp [OpenSession.step, h]

/-! ## Messages -/

/-- The operation of a task for messages runs on an open session, here and on the token, which has the byte of the
key and has kept some bytes of the message. -/
structure Keeps (task : Task) (k : UInt8) (kept : Bytes) (begun : Bool) (session : Session) (token : SoftToken) :
    Prop where
  active : session.active.contains (task.operation .messages) = true
  begun : session.tracker.messageBegun = begun
  sees : ∃ objects, Sees session token objects fun opened => opened.message = some ⟨k, kept⟩

/-- A message step is answered out of what the token keeps. -/
theorem Keeps.step (keeps : Keeps task k kept begun session token) (step : MessageStep)
    (answer : Except Error step.Result × step.Written) {next : Bytes} {goesOn : Bool}
    (own : step.operation = task.operation .messages) (comes : begun = step.place.isPart)
    (settled : Session.settle step.verifies answer.1 = answer.1)
    (answers : ∀ opened : OpenSession, opened.message = some ⟨k, kept⟩ →
      (opened.messageStep step).1 = answer ∧ (opened.messageStep step).2.message = some ⟨k, next⟩)
    (ends : session.afterMessage step answer.1.isOk = session.withBegun goesOn) :
    ∃ later, (session.plainMessage step).run SoftToken.module token =
        ((answer.1, session.withBegun goesOn), later) ∧
      Keeps task k next goesOn (session.withBegun goesOn) later := by
  obtain ⟨active, rfl, objects, sees⟩ := keeps
  have admits : session.tracker.checkMessage step.operation step.place = .ok () := by
    rw [own]
    exact Tracker.checkMessage_eq_ok_iff.2 ⟨active, comes⟩
  obtain ⟨later, hrun, after⟩ :=
    sees.message (Q := fun opened => opened.message = some ⟨k, next⟩) admits settled answers
  rw [ends] at hrun after
  refine ⟨later, ?_, active, rfl, objects, after⟩
  rw [Session.plainMessage, Program.run_map, hrun]

/-- A whole message leaves everything as it is. -/
theorem Keeps.message (keeps : Keeps task k kept false session token) (params : Option MechanismParams)
    (data : Bytes) :
    ∃ later, (task.message session params data).run SoftToken.module token =
        ((task.answer (keyedHash k data), session), later) ∧
      Keeps task k kept false session later := by
  have same := Session.withBegun_of_eq keeps.begun
  suffices ∃ later, (task.message session params data).run SoftToken.module token =
        ((task.answer (keyedHash k data), session.withBegun false), later) ∧
      Keeps task k kept false (session.withBegun false) later by
    rwa [same] at this
  cases task with
  | sign =>
    refine keeps.step (.sign params data) (.ok _, ()) rfl rfl rfl (fun opened h => ?_)
      ((Session.afterMessage_whole rfl).trans same.symm)
    simp [OpenSession.messageStep, h]
  | verify given =>
    refine keeps.step (.verify params data given) (judge _ given, ()) rfl rfl (settle_judge _ _)
      (fun opened h => ?_) ((Session.afterMessage_whole rfl).trans same.symm)
    simp [OpenSession.messageStep, h]

/-- When a message begins, nothing is left of the last one. -/
theorem Keeps.begin (keeps : Keeps task k kept false session token) (params : Option MechanismParams) :
    ∃ later, (task.beginMessage session params).run SoftToken.module token =
        ((.ok (), session.withBegun true), later) ∧
      Keeps task k [] true (session.withBegun true) later := by
  cases task with
  | sign =>
    refine keeps.step (.signBegin params) (.ok (), ()) rfl rfl rfl (fun opened h => ?_)
      (Session.afterMessage_begin rfl)
    simp [OpenSession.messageStep, OpenSession.withParts, h]
  | verify given =>
    refine keeps.step (.verifyBegin params) (.ok (), ()) rfl rfl rfl (fun opened h => ?_)
      (Session.afterMessage_begin rfl)
    simp [OpenSession.messageStep, OpenSession.withParts, h]

/-- A part that is not the last one is kept, and yields nothing yet. -/
theorem Keeps.part (keeps : Keeps task k kept true session token) (params : Option MechanismParams)
    (data : Bytes) :
    ∃ later, (task.part session params data).run SoftToken.module token =
        ((.ok task.nothing, session.withBegun true), later) ∧
      Keeps task k (kept ++ data) true (session.withBegun true) later := by
  cases task with
  | sign =>
    refine keeps.step (.signNext params data false) (.ok [], ()) rfl rfl rfl (fun opened h => ?_)
      (Session.afterMessage_part keeps.begun rfl fun _ => rfl)
    simp [OpenSession.messageStep, OpenSession.withParts, h]
  | verify given =>
    refine keeps.step (.verifyNext params data none) (.ok (), ()) rfl rfl rfl (fun opened h => ?_)
      (Session.afterMessage_part keeps.begun rfl fun _ => rfl)
    simp [OpenSession.messageStep, OpenSession.withParts, h]

/-- With the last part the message is over, whether or not its signature is right. -/
theorem Keeps.lastPart (keeps : Keeps task k kept true session token) (params : Option MechanismParams)
    (data : Bytes) :
    ∃ later, (task.lastPart session params data).run SoftToken.module token =
        ((task.answer (keyedHash k (kept ++ data)), session.withBegun false), later) ∧
      Keeps task k [] false (session.withBegun false) later := by
  cases task with
  | sign =>
    refine keeps.step (.signNext params data true) (.ok _, ()) rfl rfl rfl (fun opened h => ?_)
      (Session.afterMessage_part keeps.begun rfl nofun)
    simp [OpenSession.messageStep, OpenSession.withParts, h]
  | verify given =>
    refine keeps.step (.verifyNext params data (some given)) (judge _ given, ()) rfl rfl (settle_judge _ _)
      (fun opened h => ?_) (Session.afterMessage_part keeps.begun rfl nofun)
    simp [OpenSession.messageStep, OpenSession.withParts, h]

/-- Parts are kept one after the other, and with the last one the message comes to the hash of all of them. -/
theorem Keeps.parts (keeps : Keeps task k kept true session token) (params : Option MechanismParams)
    (parts : List Bytes) (last : Bytes) :
    ∃ later, (task.parts params last session parts).run SoftToken.module token =
        ((task.answer (keyedHash k (kept ++ (parts.flatten ++ last))), session.withBegun false), later) ∧
      Keeps task k [] false (session.withBegun false) later := by
  induction parts generalizing kept session token with
  | nil => exact keeps.lastPart params last
  | cons data more ih =>
    obtain ⟨middle, hfirst, hkeeps⟩ := keeps.part params data
    obtain ⟨later, hrest, hlast⟩ := ih hkeeps
    rw [Session.withBegun_withBegun] at hrest hlast
    refine ⟨later, ?_, hlast⟩
    rw [Task.parts, run_followed hfirst, hrest, List.flatten_cons, List.append_assoc, List.append_assoc]

/-! ## All ways to give data -/

/-- The operation of a task runs with the byte of a key and has been fed nothing, or no message has begun. What the
token has kept of the last message may be anything. -/
def Ready (task : Task) (k : UInt8) (session : Session) (token : SoftToken) : Manner → Prop
  | .stream => Fed task [k] session token
  | .messages => ∃ kept, Keeps task k kept false session token

/-- What is started with a key is ready. -/
theorem ready_of_start {key : Code} {mechanism : Mechanism} (manner : Manner) (sound : session.Sound)
    (idle : session.IsIdleOn token) (keyed : token.HasKey key k)
    (supported : (session.wireMechanism mechanism).code ∈ mechanismCodes) :
    ∃ started later, (session.start (task.start key manner) mechanism).run SoftToken.module token =
        ((.ok (), started), later) ∧ Ready task k started later manner := by
  obtain ⟨idle, handle, opened, isOpen, known⟩ := idle
  obtain ⟨later, hrun, hview⟩ := @run_start_of_idle token session handle key k token.objects mechanism opened
    (task.start key manner) isOpen idle (view_of_known known) keyed (by cases manner <;> cases task <;> rfl)
    supported (by cases manner <;> cases task <;> rfl)
  refine ⟨_, later, hrun, ?_⟩
  have active : (session.active.insert (task.start key manner).operation).contains (task.operation manner) =
      true := by
    cases manner <;> cases task <;> simp [Task.start, Task.operation, Start.operation]
  cases manner with
  | stream =>
    refine ⟨active, token.objects, handle, _, isOpen, hview, ?_⟩
    cases task <;> rfl
  | messages =>
    refine ⟨[], active, sound.tracker.messageBegun_of_idle idle, token.objects, handle, _, isOpen, hview, ?_⟩
    cases task <;> rfl

/-- However data is given, it comes to the code of all of it. After a message the operation is ready for the next
one. -/
theorem Ready.carryOut (delivery : Delivery) (ready : Ready task k session token delivery.manner) :
    ∃ later, (task.carryOut session delivery).run SoftToken.module token =
        ((task.answer (keyedHash k delivery.data), task.after session delivery.manner), later) ∧
      (delivery.manner = .messages → Ready task k session later .messages) := by
  cases delivery with
  | whole data =>
    obtain ⟨later, hrun⟩ := Fed.whole ready data
    exact ⟨later, hrun, fun h => nomatch h⟩
  | chunks chunks =>
    obtain ⟨middle, hchunks, hfed⟩ := Fed.chunks ready chunks
    obtain ⟨later, hrun⟩ := hfed.final
    refine ⟨later, ?_, fun h => nomatch h⟩
    rw [Task.carryOut, run_followed hchunks]
    exact hrun
  | message params data =>
    obtain ⟨kept, keeps⟩ := ready
    obtain ⟨later, hrun, hkeeps⟩ := keeps.message params data
    exact ⟨later, hrun, fun _ => ⟨kept, hkeeps⟩⟩
  | parts params parts last =>
    obtain ⟨kept, keeps⟩ := ready
    obtain ⟨middle, hbegin, hbegun⟩ := keeps.begin params
    obtain ⟨later, hparts, hkeeps⟩ := hbegun.parts params parts last
    rw [Session.withBegun_withBegun, Session.withBegun_of_eq keeps.begun] at hparts hkeeps
    refine ⟨later, ?_, fun _ => ⟨[], hkeeps⟩⟩
    rw [Task.carryOut, run_followed hbegin]
    exact hparts

/-- What is ready to verify one signature is ready to verify any. -/
theorem Ready.verify_any {first : Bytes} {manner : Manner}
    (ready : Ready (.verify first) k session token manner) (second : Bytes) :
    Ready (.verify second) k session token manner := by
  cases manner with
  | stream =>
    obtain ⟨active, sees⟩ := ready
    exact ⟨active, sees⟩
  | messages =>
    obtain ⟨kept, active, begun, sees⟩ := ready
    exact ⟨kept, active, begun, sees⟩

/-- A signature is accepted iff it is the one expected. -/
theorem judge_eq_ok_iff (expected given : Bytes) : judge expected given = .ok () ↔ given = expected := by
  unfold judge
  split
  next h => exact ⟨fun _ => h.symm, fun _ => rfl⟩
  next h =>
    constructor
    · exact fun refused => nomatch refused
    · exact fun heq => absurd heq.symm h

private theorem kind_of_judge {expected given : Bytes} {e : Error} (refused : judge expected given = .error e) :
    e.kind = .signatureInvalid := by
  unfold judge at refused
  split at refused <;> cases refused
  rfl

/-- All ways to sign agree, and a verification accepts exactly what they yield. Any start with a key makes ready to
give data, and then each way to give it comes to one and the same signature of all of it. A verification accepts
this signature, and fails with any other as one that does not match. After that, an operation that is fed has ended,
and one that takes messages goes on, with no message begun and ready for the next one. -/
theorem signatures_agree (k : UInt8) (data : Bytes) :
    (∀ (task : Task) (manner : Manner) (session : Session) (token : SoftToken) (key : Code) (mechanism : Mechanism),
      session.Sound → session.IsIdleOn token → token.HasKey key k →
      (session.wireMechanism mechanism).code ∈ mechanismCodes →
        ∃ started later, (session.start (task.start key manner) mechanism).run SoftToken.module token =
            ((.ok (), started), later) ∧
          Ready task k started later manner) ∧
    ∃ signature,
      (∀ (delivery : Delivery) (session : Session) (token : SoftToken), delivery.data = data →
        Ready .sign k session token delivery.manner →
          ∃ ended later, (Task.sign.carryOut session delivery).run SoftToken.module token =
              ((.ok signature, ended), later) ∧
            (delivery.manner = .messages → Ready .sign k ended later .messages)) ∧
      ∀ (given : Bytes) (delivery : Delivery) (session : Session) (token : SoftToken), delivery.data = data →
        Ready (.verify given) k session token delivery.manner →
          ∃ result ended later, ((Task.verify given).carryOut session delivery).run SoftToken.module token =
              ((result, ended), later) ∧
            (result = .ok () ↔ given = signature) ∧
            (∀ e, result = .error e → e.kind = .signatureInvalid) ∧
            (delivery.manner = .stream → ended.active.contains .verify = false) ∧
            (delivery.manner = .messages → ended.active.contains .messageVerify = true ∧
              ended.tracker.messageBegun = false ∧ ∀ next, Ready (.verify next) k ended later .messages) := by
  refine ⟨fun task manner session token key mechanism sound idle keyed supported =>
    ready_of_start manner sound idle keyed supported, keyedHash k data, ?_, ?_⟩
  · rintro delivery session token rfl ready
    obtain ⟨later, hrun, hready⟩ := ready.carryOut
    refine ⟨_, later, hrun, fun messages => ?_⟩
    rw [messages]
    exact hready messages
  -- A verification is carried out in the same manner, and its last step judges the signature it was given.
  · rintro given delivery session token rfl ready
    obtain ⟨later, hrun, hready⟩ := ready.carryOut
    refine ⟨_, _, later, hrun, judge_eq_ok_iff _ _, fun e => kind_of_judge, fun stream => ?_, fun messages => ?_⟩
    · rw [stream]
      simp [Task.after, Task.operation, Session.active]
    · rw [messages]
      obtain ⟨kept, keeps⟩ := hready messages
      exact ⟨keeps.active, keeps.begun, @Ready.verify_any _ _ _ _ .messages ⟨kept, keeps⟩⟩

/-- Data is signed in chunks and verified as a message in two parts, all with one key. -/
theorem signatures_agree_withKey :
    ∃ signer signing verifier verifying signature,
      ((Session.opened (.bare tokenSlot) 2).start (.sign 1) ⟨MechanismType.sha256Hmac, .none⟩).run
          SoftToken.module (withKey 0x5A) = ((.ok (), signer), signing) ∧
      ((Session.opened (.bare tokenSlot) 2).start (.messageVerify 1) ⟨MechanismType.sha256Hmac, .none⟩).run
          SoftToken.module (withKey 0x5A) = ((.ok (), verifier), verifying) ∧
      ((Task.sign.carryOut signer (.chunks [[0x01], [], [0x02, 0x03]])).run SoftToken.module signing).1.1 =
        .ok signature ∧
      (((Task.verify signature).carryOut verifier (.parts none [[0x01, 0x02]] [0x03])).run
          SoftToken.module verifying).1.1 = .ok () := by
  have sound : (Session.opened (.bare tokenSlot) 2).Sound := ⟨Tracker.sound_idle, fun _ => rfl⟩
  obtain ⟨starts, signature, signs, verifies⟩ := signatures_agree 0x5A [0x01, 0x02, 0x03]
  obtain ⟨signer, signing, hsigning, hsigner⟩ := starts .sign .stream _ _ 1
    ⟨MechanismType.sha256Hmac, .none⟩ sound (isIdleOn_withKey 0x5A) (hasKey_withKey 0x5A) (by decide)
  obtain ⟨verifier, verifying, hverifying, hverifier⟩ := starts (.verify signature) .messages _ _ 1
    ⟨MechanismType.sha256Hmac, .none⟩ sound (isIdleOn_withKey 0x5A) (hasKey_withKey 0x5A) (by decide)
  obtain ⟨_, _, hsigned, -⟩ := signs (.chunks [[0x01], [], [0x02, 0x03]]) signer signing rfl hsigner
  obtain ⟨result, _, _, hverified, haccepts, -⟩ :=
    verifies signature (.parts none [[0x01, 0x02]] [0x03]) verifier verifying rfl hverifier
  refine ⟨signer, signing, verifier, verifying, signature, hsigning, hverifying, ?_, ?_⟩
  · rw [hsigned]
  · rw [hverified]
    exact haccepts.2 rfl

end SoftToken

end TokenClient
