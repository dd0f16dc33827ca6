import TokenClient.Proofs.SoftToken.Signatures

/-!
# Two operations at once

A cipher may share its updates with a digest, a signature or a verification. Each of the two then comes to what it
comes to alone, wherever the data is cut, and in the end nothing runs any more (`SoftToken.dual_agrees`).

When data is encrypted, the partner is fed every chunk as it is. When it is decrypted, the partner is fed only what
the cipher lets go, and what the cipher has kept back is passed on to it at the end. So what the partner has been fed
is told by the bytes that the cipher has been fed so far (`Dual.seen`), and in the end it is all of the plaintext
(`Dual.plain`). A chunk appends to these bytes, and the chunks follow by induction.
-/

namespace TokenClient

open SoftToken

/-- The pairs of a cipher and a partner that share their updates. -/
inductive Dual where
  | digestEncrypt
  | signEncrypt
  | decryptDigest
  | decryptVerify (signature : Bytes)

/-- How the two operations are started. A digest has no use for its key. -/
structure Dual.Setup where
  key : Code
  mechanism : Mechanism
  partnerKey : Code
  partnerMechanism : Mechanism
  /-- Whether the cipher is started before its partner. -/
  cipherFirst : Bool

namespace Dual

/-- The way that the cipher goes. -/
def direction : Dual → Direction
  | digestEncrypt | signEncrypt => .encrypt
  | decryptDigest | decryptVerify _ => .decrypt

/-- The operation beside the cipher. -/
def partner : Dual → Operation
  | digestEncrypt | decryptDigest => .digest
  | signEncrypt => .sign
  | decryptVerify _ => .verify

/-- The two operations. -/
def pair (dual : Dual) : OperationSet := .ofList [dual.direction.operation, dual.partner]

/-- The start of the partner. -/
def partnerStart (key : Code) : Dual → Start
  | digestEncrypt | decryptDigest => .digest
  | signEncrypt => .sign key
  | decryptVerify _ => .verify key

/-- What the partner is to yield. -/
@[reducible]
def Result : Dual → Type
  | digestEncrypt | decryptDigest | signEncrypt => Bytes
  | decryptVerify _ => Unit

/-- What the partner yields of data with this digest and this signature. -/
def answer (digest signature : Bytes) : (dual : Dual) → Except Error dual.Result
  | digestEncrypt | decryptDigest => .ok digest
  | signEncrypt => .ok signature
  | decryptVerify given => judge signature given

/-- What the cipher is given, of a plaintext and its ciphertext. -/
def input (plaintext ciphertext : Bytes) (dual : Dual) : Bytes :=
  match dual.direction with
  | .encrypt => plaintext
  | .decrypt => ciphertext

/-- What the cipher yields, of a plaintext and its ciphertext. -/
def output (plaintext ciphertext : Bytes) (dual : Dual) : Bytes :=
  match dual.direction with
  | .encrypt => ciphertext
  | .decrypt => plaintext

/-! ## The calls -/

section Calls

variable (session : Session)

/-- Starts the two operations. -/
def start (setup : Setup) (dual : Dual) : Session.Action Unit :=
  if setup.cipherFirst then
    Session.followed (session.start (dual.direction.start setup.key) setup.mechanism) fun session () =>
      session.start (dual.partnerStart setup.partnerKey) setup.partnerMechanism
  else
    Session.followed (session.start (dual.partnerStart setup.partnerKey) setup.partnerMechanism) fun session () =>
      session.start (dual.direction.start setup.key) setup.mechanism

/-- Gives a chunk to both. -/
def update (chunk : Bytes) : Dual → Session.Action Bytes
  | digestEncrypt => session.step (.digestEncryptUpdate chunk)
  | signEncrypt => session.step (.signEncryptUpdate chunk)
  | decryptDigest => session.step (.decryptDigestUpdate chunk)
  | decryptVerify _ => session.step (.decryptVerifyUpdate chunk)

/-- Passes on what a decryption has kept back until the end. -/
def passOn (rest : Bytes) : Dual → Session.Action Unit
  | digestEncrypt | signEncrypt => .done (.ok (), session)
  | decryptDigest => session.step (.digestUpdate rest)
  | decryptVerify _ => session.step (.verifyUpdate rest)

/-- Ends the partner. -/
def final : (dual : Dual) → Session.Action dual.Result
  | digestEncrypt | decryptDigest => session.step .digestFinal
  | signEncrypt => session.step .signFinal
  | decryptVerify given => session.step (.verifyFinal given)

/-- Gives data to the partner at once. -/
def whole (data : Bytes) : (dual : Dual) → Session.Action dual.Result
  | digestEncrypt | decryptDigest => session.step (.digest data)
  | signEncrypt => session.step (.sign data)
  | decryptVerify given => session.step (.verify data given)

end Calls

/-- Gives chunks to both one after the other, and collects what comes out of the cipher. -/
def updates (dual : Dual) (session : Session) : List Bytes → Session.Action (List Bytes)
  | [] => .done (.ok [], session)
  | chunk :: chunks =>
    Session.followed (dual.update session chunk) fun session output =>
      Session.followed (dual.updates session chunks) fun session outputs => .done (.ok (output :: outputs), session)

/-- Runs the two operations on chunks: starts them, gives the chunks to both, and ends the one and then the other.
What came out of the cipher on each chunk and at the end is kept apart, and what the partner came to is a value. -/
def run (session : Session) (setup : Setup) (dual : Dual) (chunks : List Bytes) :
    Session.Action (List Bytes × Bytes × Except Error dual.Result) :=
  Session.followed (dual.start session setup) fun session () =>
    Session.followed (dual.updates session chunks) fun session outputs =>
      Session.followed (session.final dual.direction) fun session rest =>
        Session.followed (dual.passOn session rest) fun session () =>
          (dual.final session).map fun (verdict, session) => (.ok (outputs, rest, verdict), session)

/-- Starts the partner alone, gives data to it at once and takes the result. -/
def alone (session : Session) (setup : Setup) (dual : Dual) (data : Bytes) : Session.Action dual.Result :=
  Session.followed (session.start (dual.partnerStart setup.partnerKey) setup.partnerMechanism) fun session () =>
    dual.whole session data

/-! ## What the token has for the two -/

/-- What the token has for the partner. -/
def context : Dual → OpenSession → Option Bytes
  | digestEncrypt | decryptDigest => OpenSession.digest
  | signEncrypt => OpenSession.sign
  | decryptVerify _ => OpenSession.verify

/-- What the partner has been fed by its start, with a byte of a key. -/
def before (m : UInt8) : Dual → Bytes
  | digestEncrypt | decryptDigest => []
  | signEncrypt | decryptVerify _ => [m]

/-- What the partner has been fed by the time that the cipher has been fed some bytes. -/
def seen (k : UInt8) (bytes : Bytes) (dual : Dual) : Bytes :=
  match dual.direction with
  | .encrypt => bytes
  | .decrypt => Cipher.gone k bytes

/-- The plaintext, of the bytes that the cipher has been fed. -/
def plain (k : UInt8) (bytes : Bytes) (dual : Dual) : Bytes :=
  match dual.direction with
  | .encrypt => bytes
  | .decrypt => mask k bytes

/-- The cipher has been fed some bytes, and the partner what it has seen of them. -/
def Holds (k : UInt8) (fed bytes : Bytes) (dual : Dual) (opened : OpenSession) : Prop :=
  dual.direction.context opened = some (.fed k bytes) ∧ dual.context opened = some (fed ++ dual.seen k bytes)

end Dual

namespace Session

/-- The session with other operations running. -/
def withActive (session : Session) (ops : OperationSet) : Session :=
  { session with tracker := { session.tracker with active := ops } }

private theorem withActive_of_eq {session : Session} {ops : OperationSet} (same : session.active = ops) :
    session.withActive ops = session := by
  rw [withActive, ← same]
  rfl

private theorem start_withActive {op : Operation} (other : op ≠ .find) (session : Session) (ops : OperationSet) :
    { session.withActive ops with tracker := (session.withActive ops).tracker.start op } =
      session.withActive (ops.insert op) := by
  rw [Tracker.start, if_neg other]
  rfl

/-- Operations that may run beside others end without a trace in the rest of the tracker. -/
theorem finish_withActive {op : Operation} (shared : op.isExclusive = false) (session : Session)
    (ops : OperationSet) :
    { session.withActive ops with tracker := (session.withActive ops).tracker.finish (.ofList [op]) } =
      session.withActive (ops.diff (.ofList [op])) := by
  have message : (OperationSet.ofList [op]).any Operation.isMessage = false := by
    cases op <;> first | rfl | cases shared
  have find : (OperationSet.ofList [op]).contains .find = false := by
    cases op <;> first | rfl | cases shared
  rw [Tracker.finish, message, find]
  simp [withActive]

end Session

namespace SoftToken

variable {dual : Dual} {k m : UInt8} {fed bytes : Bytes} {session : Session} {token : SoftToken}
  {objects : Registry StoredObject} {setup : Dual.Setup} {ops : OperationSet} {P Q : OpenSession → Prop}

/-! ## Updates -/

/-- A chunk is fed to both. -/
theorem Sees.update (sees : Sees (session.withActive dual.pair) token objects (dual.Holds k fed bytes))
    (chunk : Bytes) :
    ∃ later, (dual.update (session.withActive dual.pair) chunk).run SoftToken.module token =
        ((.ok ((Cipher.fed k bytes).released chunk), session.withActive dual.pair), later) ∧
      Sees (session.withActive dual.pair) later objects (dual.Holds k fed (bytes ++ chunk)) := by
  cases dual with
  | digestEncrypt | signEncrypt =>
    refine sees.step (List.forall_mem_cons.2 ⟨rfl, List.forall_mem_singleton.2 rfl⟩) rfl rfl rfl
      fun opened h => ?_
    obtain ⟨hcipher, hfed⟩ := h
    simp only [Dual.direction, Direction.context, Dual.context, Dual.seen] at hcipher hfed
    simp [OpenSession.step, Dual.Holds, Direction.context, Dual.context, Dual.direction, Dual.seen, hcipher, hfed,
      Cipher.feed_fed]
  | decryptDigest | decryptVerify given =>
    -- here the partner sees more only as the cipher lets go of more
    refine sees.step (List.forall_mem_cons.2 ⟨rfl, List.forall_mem_singleton.2 rfl⟩) rfl rfl rfl
      fun opened h => ?_
    obtain ⟨hcipher, hfed⟩ := h
    simp only [Dual.direction, Direction.context, Dual.context, Dual.seen] at hcipher hfed
    simp [OpenSession.step, Dual.Holds, Direction.context, Dual.context, Dual.direction, Dual.seen, hcipher, hfed,
      Cipher.feed_fed, Cipher.gone_append]

/-- Chunks are fed to both one after the other. -/
theorem Sees.updates (sees : Sees (session.withActive dual.pair) token objects (dual.Holds k fed bytes))
    (chunks : List Bytes) :
    ∃ later, (dual.updates (session.withActive dual.pair) chunks).run SoftToken.module token =
        ((.ok ((Cipher.fed k bytes).outputs chunks), session.withActive dual.pair), later) ∧
      Sees (session.withActive dual.pair) later objects (dual.Holds k fed (bytes ++ chunks.flatten)) := by
  induction chunks generalizing bytes token with
  | nil => exact ⟨token, rfl, by rwa [List.flatten_nil, List.append_nil]⟩
  | cons chunk chunks ih =>
    obtain ⟨middle, hfirst, hsees⟩ := sees.update chunk
    obtain ⟨later, hrest, hlast⟩ := ih hsees
    refine ⟨later, ?_, by rwa [List.flatten_cons, ← List.append_assoc]⟩
    rw [Dual.updates, run_followed hfirst, run_followed hrest, Cipher.outputs, Cipher.feed_fed]
    rfl

/-! ## The end -/

/-- With its last step an operation ends, and the others go on. -/
theorem Sees.last (sees : Sees (session.withActive ops) token objects P) (op : Operation) {step : Step}
    {result : Except Error step.Result} (own : step.operations = [op]) (runs : ops.contains op = true)
    (shared : op.isExclusive = false) (last : step.isLast = true) (keyed : token.digestedKey step = .ok [])
    (served : implements (.step step) = true) (settled : Session.settle step.verifies result = result)
    (answers : ∀ opened, P opened → (opened.step [] step).1 = result ∧ Q (opened.step [] step).2) :
    ∃ later, ((session.withActive ops).step step).run SoftToken.module token =
        ((result, session.withActive (ops.diff (.ofList [op]))), later) ∧
      Sees (session.withActive (ops.diff (.ofList [op]))) later objects Q := by
  obtain ⟨later, hrun, hsees⟩ := sees.ended own last runs keyed served settled answers
  rw [Session.finish_withActive shared] at hrun hsees
  exact ⟨later, hrun, hsees⟩

/-- The cipher ends, and its partner has been fed what it has seen. -/
theorem Sees.cipherFinal (sees : Sees (session.withActive dual.pair) token objects (dual.Holds k fed bytes)) :
    ∃ later, ((session.withActive dual.pair).final dual.direction).run SoftToken.module token =
        ((.ok (Cipher.fed k bytes).rest, session.withActive (.single dual.partner)), later) ∧
      Sees (session.withActive (.single dual.partner)) later objects
        (fun opened => dual.context opened = some (fed ++ dual.seen k bytes)) := by
  cases dual with
  | digestEncrypt | signEncrypt =>
    refine sees.last .encrypt rfl rfl rfl rfl rfl rfl rfl fun opened h => ?_
    obtain ⟨hcipher, hfed⟩ := h
    change opened.encrypt = some (.fed k bytes) at hcipher
    rw [OpenSession.step, hcipher]
    exact ⟨rfl, hfed⟩
  | decryptDigest | decryptVerify given =>
    refine sees.last .decrypt rfl rfl rfl rfl rfl rfl rfl fun opened h => ?_
    obtain ⟨hcipher, hfed⟩ := h
    change opened.decrypt = some (.fed k bytes) at hcipher
    rw [OpenSession.step, hcipher]
    exact ⟨rfl, hfed⟩

/-- With what the cipher has kept back, the partner has been fed all of the plaintext. -/
theorem Sees.passOn
    (sees : Sees (session.withActive (.single dual.partner)) token objects
      (fun opened => dual.context opened = some (fed ++ dual.seen k bytes))) :
    ∃ later, (dual.passOn (session.withActive (.single dual.partner)) (Cipher.fed k bytes).rest).run
          SoftToken.module token = ((.ok (), session.withActive (.single dual.partner)), later) ∧
      Sees (session.withActive (.single dual.partner)) later objects
        (fun opened => dual.context opened = some (fed ++ dual.plain k bytes)) := by
  cases dual with
  | digestEncrypt | signEncrypt => exact ⟨token, rfl, sees⟩
  | decryptDigest =>
    refine sees.step (List.forall_mem_singleton.2 rfl) rfl rfl rfl fun opened h => ?_
    change opened.digest = some (fed ++ Cipher.gone k bytes) at h
    simp [OpenSession.step, OpenSession.feedDigest, Dual.context, Dual.plain, Dual.direction, h,
      Cipher.gone_append_rest]
  | decryptVerify given =>
    refine sees.step (List.forall_mem_singleton.2 rfl) rfl rfl rfl fun opened h => ?_
    change opened.verify = some (fed ++ Cipher.gone k bytes) at h
    simp [OpenSession.step, Dual.context, Dual.plain, Dual.direction, h, Cipher.gone_append_rest]

/-- What the partner yields does not depend on how the key and the data have come together. -/
theorem Sees.partnerFinal (data : Bytes)
    (sees : Sees (session.withActive (.single dual.partner)) token objects
      (fun opened => dual.context opened = some (dual.before m ++ data))) :
    ∃ later, (dual.final (session.withActive (.single dual.partner))).run SoftToken.module token =
        ((dual.answer (hash data) (keyedHash m data), session.withActive .empty), later) ∧
      Sees (session.withActive .empty) later objects fun _ => True := by
  cases dual with
  | digestEncrypt | decryptDigest =>
    refine sees.last .digest rfl rfl rfl rfl rfl rfl rfl fun opened h => ?_
    change opened.digest = some data at h
    simp [OpenSession.step, Dual.answer, h]
  | signEncrypt =>
    refine sees.last .sign rfl rfl rfl rfl rfl rfl rfl fun opened h => ?_
    change opened.sign = some (m :: data) at h
    simp [OpenSession.step, Dual.answer, keyedHash, h]
  | decryptVerify given =>
    refine sees.last .verify rfl rfl rfl rfl rfl rfl (settle_judge _ _) fun opened h => ?_
    change opened.verify = some (m :: data) at h
    simp [OpenSession.step, Dual.answer, keyedHash, h]

/-- The partner in a single step gives the digest or the signature of the text. -/
private theorem Sees.partnerWhole (data : Bytes)
    (sees : Sees (session.withActive (.single dual.partner)) token objects
      (fun opened => dual.context opened = some (dual.before m))) :
    ∃ later, (dual.whole (session.withActive (.single dual.partner)) data).run SoftToken.module token =
        ((dual.answer (hash data) (keyedHash m data), session.withActive .empty), later) ∧
      Sees (session.withActive .empty) later objects fun _ => True := by
  cases dual with
  | digestEncrypt | decryptDigest =>
    refine sees.last .digest rfl rfl rfl rfl rfl rfl rfl fun opened h => ?_
    change opened.digest = some [] at h
    simp [OpenSession.step, Dual.answer, h]
  | signEncrypt =>
    refine sees.last .sign rfl rfl rfl rfl rfl rfl rfl fun opened h => ?_
    change opened.sign = some [m] at h
    simp [OpenSession.step, Dual.answer, keyedHash, h]
  | decryptVerify given =>
    refine sees.last .verify rfl rfl rfl rfl rfl rfl (settle_judge _ _) fun opened h => ?_
    change opened.verify = some [m] at h
    simp [OpenSession.step, Dual.answer, keyedHash, h]

/-! ## The beginning -/

/-- The two operations may be started: the keys that they need are there, and the token has the mechanisms. -/
structure Startable (dual : Dual) (setup : Dual.Setup) (k m : UInt8) (session : Session) (token : SoftToken) :
    Prop where
  key : token.HasKey setup.key k
  supported : (session.wireMechanism setup.mechanism).code ∈ mechanismCodes
  partnerKey : dual.partner ≠ .digest → token.HasKey setup.partnerKey m
  partnerSupported : (session.wireMechanism setup.partnerMechanism).code ∈ mechanismCodes

private theorem Sees.objects_eq (sees : Sees session token objects P) : token.objects = objects := by
  obtain ⟨_, _, _, seen, _⟩ := sees
  exact (Prod.mk.inj seen).2

/-- An operation is started, alone or beside another one. -/
theorem Sees.started (sees : Sees (session.withActive ops) token objects P) {start : Start} {mechanism : Mechanism}
    {first : UInt8} (op : Operation) (own : start.operation = op)
    (admits : (session.withActive ops).tracker.checkStart op = .ok ()) (other : op ≠ .find)
    (supported : (session.wireMechanism mechanism).code ∈ mechanismCodes)
    (keyed : token.startKey start = .ok first)
    (served : implements (.start start (session.wireMechanism mechanism)) = true)
    (starts : ∀ opened : OpenSession, P opened → Q (opened.start first op)) :
    ∃ later, ((session.withActive ops).start start mechanism).run SoftToken.module token =
        ((.ok (), session.withActive (ops.insert op)), later) ∧
      Sees (session.withActive (ops.insert op)) later objects Q := by
  subst own
  obtain ⟨later, hrun, hsees⟩ := sees.start admits supported keyed served starts
  rw [Session.start_withActive other] at hrun hsees
  exact ⟨later, hrun, hsees⟩

/-- A partner starts with a byte of its key, if it needs one. -/
theorem Startable.partnerKeyed (startable : Startable dual setup k m session token) :
    ∃ first, token.startKey (dual.partnerStart setup.partnerKey) = .ok first ∧
      dual.before first = dual.before m := by
  cases dual with
  | digestEncrypt | decryptDigest => exact ⟨0, rfl, rfl⟩
  | signEncrypt | decryptVerify given => exact ⟨m, keyByte_of_hasKey (startable.partnerKey nofun), rfl⟩

private theorem Startable.cipherKeyed (startable : Startable dual setup k m session token) :
    token.startKey (dual.direction.start setup.key) = .ok k := by
  have keyed := keyByte_of_hasKey startable.key
  cases dual <;> exact keyed

/-- Starting the cipher of a dual operation. -/
private theorem Sees.startedCipher (sees : Sees (session.withActive ops) token objects P)
    (admits : (session.withActive ops).tracker.checkStart dual.direction.operation = .ok ())
    (supported : (session.wireMechanism setup.mechanism).code ∈ mechanismCodes)
    (keyed : token.startKey (dual.direction.start setup.key) = .ok k)
    (starts : ∀ opened : OpenSession, P opened → Q (opened.start k dual.direction.operation)) :
    ∃ later, ((session.withActive ops).start (dual.direction.start setup.key) setup.mechanism).run
          SoftToken.module token = ((.ok (), session.withActive (ops.insert dual.direction.operation)), later) ∧
      Sees (session.withActive (ops.insert dual.direction.operation)) later objects Q :=
  sees.started _ (by cases dual <;> rfl) admits (by cases dual <;> exact nofun) supported keyed
    (by cases dual <;> rfl) starts

/-- Starting its partner. -/
private theorem Sees.startedPartner {first : UInt8} (sees : Sees (session.withActive ops) token objects P)
    (admits : (session.withActive ops).tracker.checkStart dual.partner = .ok ())
    (supported : (session.wireMechanism setup.partnerMechanism).code ∈ mechanismCodes)
    (keyed : token.startKey (dual.partnerStart setup.partnerKey) = .ok first)
    (starts : ∀ opened : OpenSession, P opened → Q (opened.start first dual.partner)) :
    ∃ later, ((session.withActive ops).start (dual.partnerStart setup.partnerKey) setup.partnerMechanism).run
          SoftToken.module token = ((.ok (), session.withActive (ops.insert dual.partner)), later) ∧
      Sees (session.withActive (ops.insert dual.partner)) later objects Q :=
  sees.started _ (by cases dual <;> rfl) admits (by cases dual <;> exact nofun) supported keyed
    (by cases dual <;> rfl) starts

/-- The two operations are started in either order. -/
theorem Sees.startedBoth (sees : Sees (session.withActive .empty) token objects P)
    (startable : Startable dual setup k m session token) :
    ∃ later, (dual.start (session.withActive .empty) setup).run SoftToken.module token =
        ((.ok (), session.withActive dual.pair), later) ∧
      Sees (session.withActive dual.pair) later objects (dual.Holds k (dual.before m) []) := by
  obtain ⟨first, partnerKeyed, hbefore⟩ := startable.partnerKeyed
  have cipherKeyed := startable.cipherKeyed
  rw [← hbefore]
  -- Both orders end with the same two contexts, so what follows need not know the order.
  cases order : setup.cipherFirst with
  | true =>
    obtain ⟨middle, hcipher, hmiddle⟩ := sees.startedCipher
      (Q := fun opened => dual.direction.context opened = some (.start k)) rfl startable.supported cipherKeyed
      fun opened _ => by cases dual <;> rfl
    rw [← startKey_congr (hmiddle.objects_eq.trans sees.objects_eq.symm)] at partnerKeyed
    obtain ⟨later, hpartner, hlater⟩ := hmiddle.startedPartner
      (Q := dual.Holds k (dual.before first) []) (by cases dual <;> rfl) startable.partnerSupported partnerKeyed
      fun opened h => by cases dual <;> exact ⟨h, rfl⟩
    have hpair : (OperationSet.empty.insert dual.direction.operation).insert dual.partner = dual.pair := by
      cases dual <;> rfl
    rw [hpair] at hpartner hlater
    refine ⟨later, ?_, hlater⟩
    rw [Dual.start, order, if_pos rfl, run_followed hcipher, hpartner]
  | false =>
    obtain ⟨middle, hpartner, hmiddle⟩ := sees.startedPartner
      (Q := fun opened => dual.context opened = some (dual.before first)) rfl startable.partnerSupported
      partnerKeyed fun opened _ => by cases dual <;> rfl
    rw [← startKey_congr (hmiddle.objects_eq.trans sees.objects_eq.symm)] at cipherKeyed
    obtain ⟨later, hcipher, hlater⟩ := hmiddle.startedCipher
      (Q := dual.Holds k (dual.before first) []) (by cases dual <;> rfl) startable.supported cipherKeyed
      fun opened h => by cases dual <;> exact ⟨rfl, h⟩
    have hpair : (OperationSet.empty.insert dual.partner).insert dual.direction.operation = dual.pair := by
      cases dual <;> rfl
    rw [hpair] at hcipher hlater
    refine ⟨later, ?_, hlater⟩
    rw [Dual.start, order, if_neg Bool.false_ne_true, run_followed hpartner, hcipher]

/-! ## Both and alone -/

/-- Both operations from their start to their end. -/
theorem Sees.ran (sees : Sees (session.withActive .empty) token objects P)
    (startable : Startable dual setup k m session token) (chunks : List Bytes) :
    ∃ later, (dual.run (session.withActive .empty) setup chunks).run SoftToken.module token =
        ((.ok ((Cipher.start k).outputs chunks, (Cipher.fed k chunks.flatten).rest,
          dual.answer (hash (dual.plain k chunks.flatten)) (keyedHash m (dual.plain k chunks.flatten))),
          session.withActive .empty), later) ∧
      Sees (session.withActive .empty) later objects fun _ => True := by
  obtain ⟨begun, hstart, hbegun⟩ := sees.startedBoth startable
  obtain ⟨fed, hupdates, hfed⟩ := hbegun.updates chunks
  rw [List.nil_append] at hfed
  obtain ⟨released, hfinal, hreleased⟩ := hfed.cipherFinal
  obtain ⟨passed, hpass, hpassed⟩ := hreleased.passOn
  obtain ⟨later, hpartner, hlater⟩ := hpassed.partnerFinal
  refine ⟨later, ?_, hlater⟩
  rw [Dual.run, run_followed hstart, run_followed hupdates, run_followed hfinal, run_followed hpass,
    Program.run_map, hpartner]
  rfl

/-- The partner alone. -/
theorem Sees.ranAlone (sees : Sees (session.withActive .empty) token objects P)
    (startable : Startable dual setup k m session token) (data : Bytes) :
    ((dual.alone (session.withActive .empty) setup data).run SoftToken.module token).1 =
      (dual.answer (hash data) (keyedHash m data), session.withActive .empty) := by
  obtain ⟨first, keyed, hbefore⟩ := startable.partnerKeyed
  obtain ⟨begun, hstart, hbegun⟩ := sees.startedPartner
    (Q := fun opened => dual.context opened = some (dual.before m)) rfl startable.partnerSupported keyed
    fun opened _ => by rw [← hbefore]; cases dual <;> rfl
  have single : OperationSet.empty.insert dual.partner = .single dual.partner := by cases dual <;> rfl
  rw [single] at hstart hbegun
  obtain ⟨later, hwhole, -⟩ := hbegun.partnerWhole data
  rw [Dual.alone, run_followed hstart, hwhole]

/-- Dual updates come to what the two operations come to separately. For a plaintext there are a ciphertext, a digest
and a signature such that, for each of the pairs and however what it is given is cut: the cipher alone and the partner
alone yield the ciphertext or the plaintext, and the digest, the signature or the verdict on a signature; and so do
both together. Every call is accepted until the verdict, and the session is idle again. -/
theorem dual_agrees (k m : UInt8) (plaintext : Bytes) :
    ∃ ciphertext digest signature, ∀ (dual : Dual) (session : Session) (token : SoftToken) (setup : Dual.Setup),
      session.IsIdleOn token → Startable dual setup k m session token →
        ((session.atOnce dual.direction setup.key setup.mechanism (dual.input plaintext ciphertext)).run
            SoftToken.module token).1 = (.ok (dual.output plaintext ciphertext), session) ∧
        ((dual.alone session setup plaintext).run SoftToken.module token).1 =
          (dual.answer digest signature, session) ∧
        ∀ chunks : List Bytes, chunks.flatten = dual.input plaintext ciphertext → ∃ outputs rest later,
          (dual.run session setup chunks).run SoftToken.module token =
            ((.ok (outputs, rest, dual.answer digest signature), session), later) ∧
          outputs.flatten ++ rest = dual.output plaintext ciphertext ∧
          session.IsIdleOn later ∧ later.objects = token.objects := by
  refine ⟨mask k plaintext, hash plaintext, keyedHash m plaintext,
    fun dual session token setup idle startable => ?_⟩
  obtain ⟨idle, handle, opened, isOpen, known⟩ := idle
  have seen := view_of_known known
  have same := Session.withActive_of_eq idle
  have sees : Sees (session.withActive .empty) token token.objects fun _ => True :=
    ⟨handle, opened, isOpen, seen, trivial⟩
  have hmask : mask k (dual.input plaintext (mask k plaintext)) = dual.output plaintext (mask k plaintext) := by
    cases dual <;> simp [Dual.input, Dual.output, Dual.direction]
  refine ⟨?_, ?_, fun chunks cut => ?_⟩
  · rw [run_atOnce isOpen idle seen startable.key startable.supported, hmask]
  · have hrun := sees.ranAlone startable plaintext
    rwa [same] at hrun
  · obtain ⟨later, hrun, hlater⟩ := sees.ran startable chunks
    rw [same] at hrun hlater
    -- The partner is fed plaintext on either side: the input when sealing, the output when opening.
    have hplain : dual.plain k chunks.flatten = plaintext := by
      rw [cut]
      cases dual <;> simp [Dual.plain, Dual.input, Dual.direction]
    rw [hplain] at hrun
    refine ⟨_, _, later, hrun, ?_, ?_, hlater.objects_eq⟩
    · rw [Cipher.flatten_outputs_append_rest, cut, hmask]
    · obtain ⟨own, after, hown, hview, -⟩ := hlater
      exact ⟨idle, own, after, hown, (Prod.mk.inj hview).1⟩

/-- A message is encrypted and signed in three chunks, one of them empty, and decrypted and verified in two. -/
theorem dual_agrees_withKey :
    ∃ ciphertext signature outputs rest later,
      (Dual.signEncrypt.run (Session.opened (.bare tokenSlot) 2)
          ⟨1, ⟨MechanismType.aesEcb, .none⟩, 1, ⟨MechanismType.sha256Hmac, .none⟩, true⟩
          [[0x01, 0x02], [], [0x03]]).run SoftToken.module (withKey 0x5A) =
        ((.ok (outputs, rest, .ok signature), Session.opened (.bare tokenSlot) 2), later) ∧
      outputs.flatten ++ rest = ciphertext ∧
      ∃ plain last again,
        ((Dual.decryptVerify signature).run (Session.opened (.bare tokenSlot) 2)
            ⟨1, ⟨MechanismType.aesEcb, .none⟩, 1, ⟨MechanismType.sha256Hmac, .none⟩, false⟩
            [ciphertext.take 1, ciphertext.drop 1]).run SoftToken.module (withKey 0x5A) =
          ((.ok (plain, last, .ok ()), Session.opened (.bare tokenSlot) 2), again) ∧
        plain.flatten ++ last = [0x01, 0x02, 0x03] := by
  obtain ⟨ciphertext, digest, signature, agrees⟩ := dual_agrees 0x5A 0x5A [0x01, 0x02, 0x03]
  have key := hasKey_withKey 0x5A
  obtain ⟨-, -, sends⟩ := agrees .signEncrypt _ (withKey 0x5A)
    ⟨1, ⟨MechanismType.aesEcb, .none⟩, 1, ⟨MechanismType.sha256Hmac, .none⟩, true⟩ (isIdleOn_withKey 0x5A)
    ⟨key, by decide, fun _ => key, by decide⟩
  obtain ⟨-, -, receives⟩ := agrees (.decryptVerify signature) _ (withKey 0x5A)
    ⟨1, ⟨MechanismType.aesEcb, .none⟩, 1, ⟨MechanismType.sha256Hmac, .none⟩, false⟩ (isIdleOn_withKey 0x5A)
    ⟨key, by decide, fun _ => key, by decide⟩
  obtain ⟨outputs, rest, later, hsent, hciphertext, -⟩ := sends [[0x01, 0x02], [], [0x03]] rfl
  have cut : [ciphertext.take 1, ciphertext.drop 1].flatten = ciphertext := by
    rw [List.flatten_cons, List.flatten_singleton, List.take_append_drop]
  obtain ⟨plain, last, again, hreceived, hplain, -⟩ := receives _ cut
  refine ⟨ciphertext, signature, outputs, rest, later, hsent, hciphertext, plain, last, again, ?_, hplain⟩
  rw [hreceived, Dual.answer, (judge_eq_ok_iff signature signature).2 rfl]

end SoftToken

end TokenClient
