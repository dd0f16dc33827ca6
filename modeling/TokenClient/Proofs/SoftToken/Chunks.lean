import Mathlib.Order.Bounds.Defs
import TokenClient.Proofs.Session.Invariant
import TokenClient.Proofs.SoftToken.View

/-!
# Data in chunks

A client gives data to the cipher of the token at once or in chunks, and neither the number of the chunks nor
their sizes can be told from what comes out (`SoftToken.chunks_irrelevant`).

The cipher keeps back what does not fill a block, so what it keeps depends on all that it has been fed. It is
computed from these bytes alone (`Cipher.fed`), and so is what the cipher has let go until then. A chunk takes
the one state to the other (`Cipher.feed_fed`), and the chunks of a run follow by induction.
-/

namespace TokenClient

open SoftToken

namespace SoftToken

/-! ## The cipher -/

/-- Whole blocks in front stay whole blocks. -/
private theorem wholeBlocks_add {m : Nat} (whole : blockSize ∣ m) (n : Nat) :
    Cipher.wholeBlocks (m + n) = m + Cipher.wholeBlocks n := by
  unfold Cipher.wholeBlocks blockSize at *
  omega

private theorem dvd_wholeBlocks (n : Nat) : blockSize ∣ Cipher.wholeBlocks n := by
  unfold Cipher.wholeBlocks blockSize
  omega

private theorem wholeBlocks_le (n : Nat) : Cipher.wholeBlocks n ≤ n := Nat.sub_le _ _

/-- The whole blocks in a number of bytes are as many as fit. -/
theorem isGreatest_wholeBlocks (n : Nat) :
    IsGreatest {m | blockSize ∣ m ∧ m ≤ n} (Cipher.wholeBlocks n) := by
  refine ⟨⟨dvd_wholeBlocks n, wholeBlocks_le n⟩, ?_⟩
  rintro m ⟨whole, hle⟩
  unfold Cipher.wholeBlocks blockSize at *
  omega

namespace Cipher

/-- A cipher that has been fed some bytes, however they were cut. -/
def fed (key : UInt8) (bytes : Bytes) : Cipher := ⟨key, bytes.drop (wholeBlocks bytes.length)⟩

/-- What a cipher has let go by then. -/
def gone (key : UInt8) (bytes : Bytes) : Bytes := mask key (bytes.take (wholeBlocks bytes.length))

variable (key : UInt8) (bytes data : Bytes)

private theorem start_eq_fed : start key = fed key [] := rfl

/-- What was let go, what was kept back, and where the next whole blocks end. -/
theorem append_split : ∃ before,
    before.length = wholeBlocks bytes.length ∧ mask key before = gone key bytes ∧
      bytes ++ data = before ++ ((fed key bytes).pending ++ data) ∧
      wholeBlocks (bytes ++ data).length =
        before.length + wholeBlocks ((fed key bytes).pending ++ data).length := by
  have hlength : (bytes.take (wholeBlocks bytes.length)).length = wholeBlocks bytes.length :=
    List.length_take_of_le (wholeBlocks_le _)
  have hsplit : bytes ++ data =
      bytes.take (wholeBlocks bytes.length) ++ ((fed key bytes).pending ++ data) := by
    rw [fed, ← List.append_assoc, List.take_append_drop]
  refine ⟨_, hlength, rfl, hsplit, ?_⟩
  rw [hsplit, List.length_append, hlength, wholeBlocks_add (dvd_wholeBlocks _)]

/-- Feeding more bytes is having been fed all of them. -/
theorem feed_fed : (fed key bytes).feed data = fed key (bytes ++ data) := by
  obtain ⟨before, -, -, hsplit, hwhole⟩ := append_split key bytes data
  rw [feed, fed, fed, hwhole, hsplit, List.drop_length_add_append]
  rfl

/-- What has gone out grows by what feeding releases. -/
theorem gone_append : gone key (bytes ++ data) = gone key bytes ++ (fed key bytes).released data := by
  obtain ⟨before, -, hgone, hsplit, hwhole⟩ := append_split key bytes data
  rw [gone, hwhole, hsplit, List.take_length_add_append, mask_append, hgone]
  rfl

private theorem length_gone : (gone key bytes).length = wholeBlocks bytes.length := by
  rw [gone, length_mask, List.length_take_of_le (wholeBlocks_le _)]

/-- What has gone out and what is still held make up the whole masked text. -/
theorem gone_append_rest : gone key bytes ++ (fed key bytes).rest = mask key bytes := by
  rw [gone, rest, fed, ← mask_append, List.take_append_drop]

/-- What a cipher lets go on one chunk after another. -/
def outputs (cipher : Cipher) : List Bytes → List Bytes
  | [] => []
  | chunk :: chunks => cipher.released chunk :: (cipher.feed chunk).outputs chunks

private theorem length_outputs (cipher : Cipher) (chunks : List Bytes) :
    (cipher.outputs chunks).length = chunks.length := by
  induction chunks generalizing cipher with
  | nil => rfl
  | cons chunk chunks ih => rw [outputs, List.length_cons, List.length_cons, ih]

private theorem take_outputs (cipher : Cipher) (chunks : List Bytes) (n : Nat) :
    (cipher.outputs chunks).take n = cipher.outputs (chunks.take n) := by
  induction chunks generalizing cipher n with
  | nil => simp [outputs]
  | cons chunk chunks ih =>
    cases n with
    | zero => rfl
    | succ n => rw [outputs, List.take_succ_cons, List.take_succ_cons, outputs, ih]

/-- Chunks come to what their bytes come to. -/
theorem flatten_outputs (chunks : List Bytes) :
    gone key bytes ++ ((fed key bytes).outputs chunks).flatten = gone key (bytes ++ chunks.flatten) := by
  induction chunks generalizing bytes with
  | nil => simp [outputs]
  | cons chunk chunks ih =>
    rw [outputs, List.flatten_cons, List.flatten_cons, ← List.append_assoc, ← List.append_assoc,
      ← gone_append, feed_fed, ih]

/-- However the bytes are cut, the cipher has been fed all of them in the end. -/
private theorem foldl_feed_fed (chunks : List Bytes) :
    chunks.foldl feed (fed key bytes) = fed key (bytes ++ chunks.flatten) := by
  induction chunks generalizing bytes with
  | nil => simp
  | cons chunk chunks ih => rw [List.foldl_cons, feed_fed, ih, List.flatten_cons, List.append_assoc]

/-- What the updates hand out is what has gone out. -/
private theorem flatten_outputs_start (chunks : List Bytes) :
    ((start key).outputs chunks).flatten = gone key chunks.flatten := flatten_outputs key [] chunks

/-- What comes out of chunks and at the end is what comes out of all of the data. -/
theorem flatten_outputs_append_rest (chunks : List Bytes) :
    ((start key).outputs chunks).flatten ++ (fed key chunks.flatten).rest = mask key chunks.flatten := by
  rw [flatten_outputs_start, gone_append_rest]

/-- After every chunk, as many whole blocks have come out as there can have. -/
theorem isGreatest_length_outputs (chunks : List Bytes) (n : Nat) :
    IsGreatest {m | blockSize ∣ m ∧ m ≤ (chunks.take n).flatten.length}
      (((start key).outputs chunks).take n).flatten.length := by
  rw [take_outputs, flatten_outputs_start, length_gone]
  exact isGreatest_wholeBlocks _

end Cipher

end SoftToken

/-- The two ways that the cipher goes. -/
inductive Direction where
  | encrypt
  | decrypt

namespace Direction

/-- The operation. -/
def operation : Direction → Operation
  | encrypt => .encrypt
  | decrypt => .decrypt

/-- The start of the operation with a key. -/
def start (key : Code) : Direction → Start
  | encrypt => .encrypt key
  | decrypt => .decrypt key

/-- The way back. -/
def inverse : Direction → Direction
  | encrypt => decrypt
  | decrypt => encrypt

/-- The cipher that the token has for the operation. -/
def context : Direction → OpenSession → Option Cipher
  | encrypt => OpenSession.encrypt
  | decrypt => OpenSession.decrypt

end Direction

namespace Session

variable {α β : Type}

/-- The call that goes on with the value of another one, or ends with its failure. -/
def followed (action : Action α) (f : Session → α → Action β) : Action β :=
  action.bind fun
    | (.ok a, session) => f session a
    | (.error e, session) => session.refuse e

/-- Gives data to the cipher at once. -/
def whole (session : Session) (data : Bytes) : Direction → Action Bytes
  | .encrypt => session.step (.encrypt data)
  | .decrypt => session.step (.decrypt data)

/-- Gives a chunk to the cipher. -/
def update (session : Session) (chunk : Bytes) : Direction → Action Bytes
  | .encrypt => session.step (.encryptUpdate chunk)
  | .decrypt => session.step (.decryptUpdate chunk)

/-- Takes what the cipher has kept back. -/
def final (session : Session) : Direction → Action Bytes
  | .encrypt => session.step .encryptFinal
  | .decrypt => session.step .decryptFinal

/-- Gives chunks to the cipher one after the other, and collects what comes out. -/
def updates (d : Direction) (session : Session) : List Bytes → Action (List Bytes)
  | [] => .done (.ok [], session)
  | chunk :: chunks =>
    followed (session.update chunk d) fun session output =>
      followed (updates d session chunks) fun session outputs => .done (.ok (output :: outputs), session)

/-- Starts an operation, gives it data at once and takes the result. -/
def atOnce (session : Session) (d : Direction) (key : Code) (mechanism : Mechanism) (data : Bytes) :
    Action Bytes :=
  followed (session.start (d.start key) mechanism) fun session () => session.whole data d

/-- Starts an operation, gives it data in chunks and ends it. What came out on each chunk and at the end is
kept apart. -/
def inChunks (session : Session) (d : Direction) (key : Code) (mechanism : Mechanism) (chunks : List Bytes) :
    Action (List Bytes × Bytes) :=
  followed (session.start (d.start key) mechanism) fun session () =>
    followed (updates d session chunks) fun session outputs =>
      followed (session.final d) fun session rest => .done (.ok (outputs, rest), session)

/-- The session is open, on the token too, and nothing runs on it. -/
def IsIdleOn (session : Session) (token : SoftToken) : Prop :=
  session.active = .empty ∧
    ∃ handle opened, session.handle = some handle ∧ token.sessions.get? handle = some opened

end Session

namespace SoftToken

/-- There is a key under a handle, and its value begins with a byte. -/
def HasKey (token : SoftToken) (key : Code) (first : UInt8) : Prop :=
  ∃ object more, token.objects.get? key = some object ∧
    object.get? AttributeType.value = some (.bytes (first :: more))

variable {α β : Type} {token later : SoftToken} {session : Session} {handle key : Code} {k : UInt8}
  {objects : Registry StoredObject} {cipher : Cipher} {d : Direction} {mechanism : Mechanism}

/-- A successful action is followed by the one made of its result. -/
theorem run_followed {action : Session.Action α} {f : Session → α → Session.Action β} {a : α}
    {middle : Session} (ran : action.run SoftToken.module token = ((.ok a, middle), later)) :
    (Session.followed action f).run SoftToken.module token = (f middle a).run SoftToken.module later := by
  rw [Session.followed, Program.run_bind, ran]

/-! ## A cipher that runs -/

/-- What the token has for an operation on a session, and its objects. -/
def Context (d : Direction) (handle : Code) (objects : Registry StoredObject) (cipher? : Option Cipher)
    (token : SoftToken) : Prop :=
  ∃ opened, token.view handle = (some opened, objects) ∧ d.context opened = cipher?

/-- An operation runs on an open session, here and on the token. -/
structure Runs (d : Direction) (session : Session) (handle : Code) (objects : Registry StoredObject)
    (cipher : Cipher) (token : SoftToken) : Prop where
  isOpen : session.handle = some handle
  active : session.active.contains d.operation = true
  context : Context d handle objects (some cipher) token

/-- A step is answered out of the cipher that runs. -/
theorem Runs.step (runs : Runs d session handle objects cipher token) {step : Step}
    {result : Except Error step.Result} {next : Option Cipher} (own : step.operations = [d.operation])
    (keyed : token.digestedKey step = .ok []) (served : implements (.step step) = true)
    (settled : Session.settle step.verifies result = result)
    (answers : ∀ opened, d.context opened = some cipher →
      (opened.step [] step).1 = result ∧ d.context (opened.step [] step).2 = next) :
    ∃ later, (session.step step).run SoftToken.module token =
        ((result, session.afterStep step result.isOk), later) ∧ Context d handle objects next later := by
  obtain ⟨isOpen, active, opened, seen, hcontext⟩ := runs
  have sees : Sees session token objects fun opened => d.context opened = some cipher :=
    ⟨handle, opened, isOpen, seen, hcontext⟩
  have running : ∀ op ∈ step.operations, session.active.contains op = true := by
    rw [own]
    exact List.forall_mem_singleton.2 active
  obtain ⟨later, hrun, own, after, hown, hview, hnext⟩ :=
    sees.step (Q := fun opened => d.context opened = next) running keyed served settled answers
  rw [handle_afterStep, isOpen] at hown
  cases hown
  exact ⟨later, hrun, after, hview, hnext⟩

/-- The session after the start of an operation. -/
def started (d : Direction) (session : Session) : Session :=
  { session with tracker := session.tracker.start d.operation }

/-- The session after the end of an operation. -/
def ended (d : Direction) (session : Session) : Session :=
  { session with tracker := session.tracker.finish (.ofList [d.operation]) }

/-- An update hands out what the cipher releases, and the cipher runs on. -/
theorem Runs.update (runs : Runs d session handle objects cipher token) (chunk : Bytes) :
    ∃ later, (session.update chunk d).run SoftToken.module token =
        ((.ok (cipher.released chunk), session), later) ∧
      Runs d session handle objects (cipher.feed chunk) later := by
  suffices ∃ later, (session.update chunk d).run SoftToken.module token =
        ((.ok (cipher.released chunk), session), later) ∧
      Context d handle objects (some (cipher.feed chunk)) later by
    obtain ⟨later, hrun, hcontext⟩ := this
    exact ⟨later, hrun, runs.isOpen, runs.active, hcontext⟩
  cases d with
  | encrypt =>
    refine runs.step rfl rfl rfl rfl fun opened h => ?_
    change opened.encrypt = some cipher at h
    simp [OpenSession.step, Direction.context, h]
  | decrypt =>
    refine runs.step rfl rfl rfl rfl fun opened h => ?_
    change opened.decrypt = some cipher at h
    simp [OpenSession.step, Direction.context, h]

/-- The final step hands out what the cipher still holds, and ends it. -/
theorem Runs.final (runs : Runs d session handle objects cipher token) :
    ∃ later, (session.final d).run SoftToken.module token = ((.ok cipher.rest, ended d session), later) ∧
      Context d handle objects none later := by
  cases d with
  | encrypt =>
    refine runs.step rfl rfl rfl rfl fun opened h => ?_
    change opened.encrypt = some cipher at h
    simp [OpenSession.step, Direction.context, h]
  | decrypt =>
    refine runs.step rfl rfl rfl rfl fun opened h => ?_
    change opened.decrypt = some cipher at h
    simp [OpenSession.step, Direction.context, h]

/-- The single step hands out the whole masked text, and ends it. -/
theorem Runs.whole (runs : Runs d session handle objects cipher token) (data : Bytes) :
    ∃ later, (session.whole data d).run SoftToken.module token =
        ((.ok (mask cipher.key data), ended d session), later) ∧ Context d handle objects none later := by
  cases d with
  | encrypt =>
    refine runs.step rfl rfl rfl rfl fun opened h => ?_
    change opened.encrypt = some cipher at h
    simp [OpenSession.step, Direction.context, h]
  | decrypt =>
    refine runs.step rfl rfl rfl rfl fun opened h => ?_
    change opened.decrypt = some cipher at h
    simp [OpenSession.step, Direction.context, h]

private theorem ended_started (idle : session.active = .empty) : ended d (started d session) = session := by
  obtain ⟨owner, handle, knownRw, ⟨active, messageBegun, cursor⟩⟩ := session
  change active = .empty at idle
  subst idle
  have alone : (OperationSet.empty.insert d.operation).diff (.ofList [d.operation]) = .empty := by
    cases d <;> decide
  have message : (OperationSet.ofList [d.operation]).any Operation.isMessage = false := by
    cases d <;> decide
  have find : Operation.find ≠ d.operation := by cases d <;> decide
  simp [ended, started, Tracker.start, Tracker.finish, alone, message, find, find.symm]

/-- The key a token has is the one it finds. -/
theorem keyByte_of_hasKey (keyed : token.HasKey key k) : token.keyByte key = .ok k := by
  obtain ⟨object, more, hobject, hvalue⟩ := keyed
  rw [keyByte, hobject]
  dsimp only
  rw [hvalue]

/-- On an idle session any operation starts with a key that is there. -/
theorem run_start_of_idle {opened : OpenSession} {start : Start} (isOpen : session.handle = some handle)
    (idle : session.active = .empty) (seen : token.view handle = (some opened, objects))
    (keyed : token.HasKey key k) (own : start.key? = some key)
    (supported : (session.wireMechanism mechanism).code ∈ mechanismCodes)
    (served : implements (.start start (session.wireMechanism mechanism)) = true) :
    ∃ later, (session.start start mechanism).run SoftToken.module token =
        ((.ok (), { session with tracker := session.tracker.start start.operation }), later) ∧
      later.view handle = (some (opened.start k start.operation), objects) := by
  have admits : session.tracker.checkStart start.operation = .ok () :=
    if_pos (OperationSet.isEmpty_iff.2 idle)
  have hkey : token.startKey start = .ok k := by
    rw [startKey, own]
    exact keyByte_of_hasKey keyed
  exact run_start isOpen seen admits supported hkey served

/-- Starting the operation starts its cipher on the token. -/
private theorem runs_start {opened : OpenSession} (isOpen : session.handle = some handle)
    (idle : session.active = .empty) (seen : token.view handle = (some opened, objects))
    (keyed : token.HasKey key k) (supported : (session.wireMechanism mechanism).code ∈ mechanismCodes) :
    ∃ later, (session.start (d.start key) mechanism).run SoftToken.module token =
        ((.ok (), started d session), later) ∧ Runs d (started d session) handle objects (.start k) later := by
  have hoperation : (d.start key).operation = d.operation := by cases d <;> rfl
  obtain ⟨later, hrun, hview⟩ := @run_start_of_idle token session handle key k objects mechanism opened
    (d.start key) isOpen idle seen keyed (by cases d <;> rfl) supported (by cases d <;> rfl)
  rw [hoperation] at hrun hview
  refine ⟨later, hrun, isOpen, by simp [started, Session.active], _, hview, ?_⟩
  cases d <;> rfl

/-- Chunks are fed one after the other. -/
theorem Runs.updates (runs : Runs d session handle objects cipher token) (chunks : List Bytes) :
    ∃ later, (Session.updates d session chunks).run SoftToken.module token =
        ((.ok (cipher.outputs chunks), session), later) ∧
      Runs d session handle objects (chunks.foldl Cipher.feed cipher) later := by
  induction chunks generalizing cipher token with
  | nil => exact ⟨token, rfl, runs⟩
  | cons chunk chunks ih =>
    obtain ⟨middle, hfirst, hruns⟩ := runs.update chunk
    obtain ⟨later, hrest, hlast⟩ := ih hruns
    refine ⟨later, ?_, hlast⟩
    rw [Session.updates, run_followed hfirst, run_followed hrest]
    rfl

/-! ## Whole operations -/

/-- Chunk by chunk the cipher hands out the masked text, and the session is idle again. -/
private theorem run_inChunks {opened : OpenSession} (isOpen : session.handle = some handle)
    (idle : session.active = .empty) (seen : token.view handle = (some opened, objects))
    (keyed : token.HasKey key k) (supported : (session.wireMechanism mechanism).code ∈ mechanismCodes)
    (chunks : List Bytes) :
    ∃ later, (session.inChunks d key mechanism chunks).run SoftToken.module token =
        ((.ok ((Cipher.start k).outputs chunks, (Cipher.fed k chunks.flatten).rest), session), later) ∧
      Context d handle objects none later := by
  obtain ⟨begun, hstart, hruns⟩ := runs_start isOpen idle seen keyed supported
  obtain ⟨through, hupdates, hthrough⟩ := hruns.updates chunks
  rw [Cipher.start_eq_fed, Cipher.foldl_feed_fed, List.nil_append] at hthrough
  obtain ⟨later, hfinal, hcontext⟩ := hthrough.final
  refine ⟨later, ?_, hcontext⟩
  rw [Session.inChunks, run_followed hstart, run_followed hupdates, run_followed hfinal,
    ended_started idle]
  rfl

/-- In a single step the whole text goes out masked, and the session is idle again. -/
theorem run_atOnce {opened : OpenSession} (isOpen : session.handle = some handle)
    (idle : session.active = .empty) (seen : token.view handle = (some opened, objects))
    (keyed : token.HasKey key k) (supported : (session.wireMechanism mechanism).code ∈ mechanismCodes)
    (data : Bytes) :
    ((session.atOnce d key mechanism data).run SoftToken.module token).1 = (.ok (mask k data), session) := by
  obtain ⟨begun, hstart, hruns⟩ := runs_start isOpen idle seen keyed supported
  obtain ⟨later, hwhole, -⟩ := hruns.whole data
  rw [Session.atOnce, run_followed hstart, hwhole, ended_started idle]
  rfl

/-- Chunking does not matter. Data that is given to the cipher in chunks comes out as it does at once, byte by
byte under the key, and after each chunk as many whole blocks have come out as there can have. The session is
idle again, and what has come out gives the data back on the way back, however it is cut. -/
theorem chunks_irrelevant (idle : session.IsIdleOn token) (keyed : token.HasKey key k)
    (supported : (session.wireMechanism mechanism).code ∈ mechanismCodes) (chunks : List Bytes) :
    ∃ outputs rest later,
      (session.inChunks d key mechanism chunks).run SoftToken.module token =
        ((.ok (outputs, rest), session), later) ∧
      session.IsIdleOn later ∧
      outputs.flatten ++ rest = mask k chunks.flatten ∧
      ((session.atOnce d key mechanism chunks.flatten).run SoftToken.module token).1 =
        (.ok (mask k chunks.flatten), session) ∧
      outputs.length = chunks.length ∧
      (∀ n, IsGreatest {m | blockSize ∣ m ∧ m ≤ (chunks.take n).flatten.length}
        (outputs.take n).flatten.length) ∧
      ∀ others : List Bytes, others.flatten = outputs.flatten ++ rest →
        ∃ plain last, ((session.inChunks d.inverse key mechanism others).run SoftToken.module later).1 =
            (.ok (plain, last), session) ∧
          plain.flatten ++ last = chunks.flatten := by
  obtain ⟨idle, handle, opened, isOpen, known⟩ := idle
  have seen := view_of_known known
  obtain ⟨later, hrun, closed, hlater, -⟩ := @run_inChunks token session handle key k token.objects d
    mechanism opened isOpen idle seen keyed supported chunks
  obtain ⟨hknown, hobjects⟩ := Prod.mk.inj hlater
  refine ⟨_, _, later, hrun, ⟨idle, handle, closed, isOpen, hknown⟩,
    Cipher.flatten_outputs_append_rest k chunks, run_atOnce isOpen idle seen keyed supported _,
    Cipher.length_outputs _ chunks, Cipher.isGreatest_length_outputs k chunks, fun others cut => ?_⟩
  -- The way back runs on the token that the first run has left: the key is an object, and those are as they were.
  have keyed' : later.HasKey key k := by
    obtain ⟨object, more, hobject, hvalue⟩ := keyed
    exact ⟨object, more, hobjects ▸ hobject, hvalue⟩
  obtain ⟨_, hback, -⟩ := @run_inChunks later session handle key k token.objects d.inverse mechanism closed
    isOpen idle hlater keyed' supported others
  refine ⟨_, _, congrArg Prod.fst hback, ?_⟩
  rw [Cipher.flatten_outputs_append_rest, cut, Cipher.flatten_outputs_append_rest, mask_mask]

/-- A token with a key under handle 1, whose value begins with `first`, and a session open under handle 2. -/
def withKey (first : UInt8) : SoftToken :=
  ((SoftToken.new.enterObject [⟨AttributeType.value, .bytes [first, 0x01]⟩]).2.answer
    (.openSession tokenSlot Flag.serialSession)).2

/-- The token with a key has it. -/
theorem hasKey_withKey (first : UInt8) : (withKey first).HasKey 1 first := ⟨_, _, rfl, rfl⟩

/-- A session just opened on it is idle. -/
theorem isIdleOn_withKey (first : UInt8) :
    (Session.opened (.bare tokenSlot) 2).IsIdleOn (withKey first) := ⟨rfl, 2, _, rfl, rfl⟩

/-- Three chunks, one of them empty, come out under the key. -/
theorem chunks_irrelevant_withKey :
    ∃ outputs rest later,
      ((Session.opened (.bare tokenSlot) 2).inChunks .encrypt 1 ⟨MechanismType.aesEcb, .none⟩
          [[0x01, 0x02], [], [0x03]]).run SoftToken.module (withKey 0x5A) =
        ((.ok (outputs, rest), Session.opened (.bare tokenSlot) 2), later) ∧
      outputs.flatten ++ rest = [0x5B, 0x58, 0x59] := by
  obtain ⟨outputs, rest, later, hrun, -, hout, -⟩ := @chunks_irrelevant _ _ 1 0x5A .encrypt
    ⟨MechanismType.aesEcb, .none⟩ (isIdleOn_withKey 0x5A) (hasKey_withKey 0x5A) (by decide)
    [[0x01, 0x02], [], [0x03]]
  exact ⟨outputs, rest, later, hrun, hout.trans (by decide)⟩

end SoftToken

end TokenClient
