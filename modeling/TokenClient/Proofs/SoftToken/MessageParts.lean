import TokenClient.Proofs.SoftToken.Chunks

/-!
# Messages in parts

A message under the message functions is given to the token whole or in parts, and neither the number of the
parts nor where they are cut can be told from what comes of it: the ciphertext, the tag and, on the way back,
the verdict (`SoftToken.parts_irrelevant`).

The token keeps what accompanies a message and the ciphertext of the parts so far, and the tag is of all of it.
So what comes of the last part is computed from these bytes alone. A message that turns out forged is over, and
the operation goes on: the session is between messages then (`SoftToken.Between`), as it was before, and of
what the token has kept of a message nothing shows in the next one.
-/

namespace TokenClient

open SoftToken

namespace MessageParams

@[simp]
private theorem tag_withTag (params : MessageParams) (tag : Bytes) : (params.withTag tag).tag = tag := by
  cases params <;> rfl

end MessageParams

namespace SoftToken

variable {params : MessageParams} {aad ciphertext tag : Bytes}

private theorem length_tagOf (params : MessageParams) (aad ciphertext : Bytes) :
    (tagOf params aad ciphertext).length = params.tag.length := Bytes.length_fit _ _

/-- Of the tag in the parameters only the length counts. -/
theorem tagOf_withTag (same : tag.length = params.tag.length) (aad ciphertext : Bytes) :
    tagOf (params.withTag tag) aad ciphertext = tagOf params aad ciphertext := by
  rw [tagOf, tagOf, MessageParams.tag_withTag, same]

end SoftToken

namespace Direction

/-- The message operation. -/
def messageOperation : Direction → Operation
  | encrypt => .messageEncrypt
  | decrypt => .messageDecrypt

/-- The start of the message operation with a key. -/
def messageStart (key : Code) : Direction → Start
  | encrypt => .messageEncrypt key
  | decrypt => .messageDecrypt key

/-- The ciphertext, of data that is to be encrypted or decrypted. -/
def ciphertext (k : UInt8) (data : Bytes) : Direction → Bytes
  | encrypt => mask k data
  | decrypt => data

@[simp]
private theorem ciphertext_append (d : Direction) (k : UInt8) (a b : Bytes) :
    d.ciphertext k (a ++ b) = d.ciphertext k a ++ d.ciphertext k b := by
  cases d with
  | encrypt => exact mask_append k a b
  | decrypt => rfl

/-- What comes of the tag at the end of a message: it is written, or it is checked. -/
def close (params : MessageParams) (aad ciphertext : Bytes) : Direction → Except Error Unit × MessageParams
  | encrypt => (.ok (), params.withTag (tagOf params aad ciphertext))
  | decrypt => (checkTag params aad ciphertext, params)

/-- What accompanies a message counts towards the tag like ciphertext before that of the message. -/
theorem close_nil_append (d : Direction) (params : MessageParams) (aad ciphertext : Bytes) :
    d.close params [] (aad ++ ciphertext) = d.close params aad ciphertext := by
  cases d <;> rfl

end Direction

/-- What comes of a message that is given in parts: the results of its beginning and of the parts in order, and
the parameters in the end. -/
structure PartsAnswer where
  begun : Except Error Unit
  results : List (Except Error Bytes)
  params : MessageParams

namespace Session

/-- Gives a message to the token whole. -/
def messageWhole (session : Session) (params : MessageParams) (aad data : Bytes) :
    Direction → Program ((Except Error Bytes × MessageParams) × Session)
  | .encrypt => session.message (.encrypt params aad data)
  | .decrypt => session.message (.decrypt params aad data)

/-- Begins a message. -/
def messageBegin (session : Session) (params : MessageParams) (aad : Bytes) :
    Direction → Program ((Except Error Unit × MessageParams) × Session)
  | .encrypt => session.message (.encryptBegin params aad)
  | .decrypt => session.message (.decryptBegin params aad)

/-- Gives a part of a message to the token. -/
def messageNext (session : Session) (params : MessageParams) (part : Bytes) (last : Bool) :
    Direction → Program ((Except Error Bytes × MessageParams) × Session)
  | .encrypt => session.message (.encryptNext params part last)
  | .decrypt => session.message (.decryptNext params part last)

/-- Gives the parts of a message to the token one after the other, each with the parameters that came back
before, and the last one as the last. -/
def messageNexts (d : Direction) (session : Session) (params : MessageParams) :
    List Bytes → Program ((List (Except Error Bytes) × MessageParams) × Session)
  | [] => .done (([], params), session)
  | part :: parts =>
    (session.messageNext params part parts.isEmpty d).bind fun ((result, params), session) =>
      (messageNexts d session params parts).map fun ((results, params), session) =>
        ((result :: results, params), session)

/-- Gives a message to the token in parts. -/
def messageInParts (session : Session) (params : MessageParams) (aad : Bytes) (parts : List Bytes)
    (d : Direction) : Program (PartsAnswer × Session) :=
  (session.messageBegin params aad d).bind fun ((begun, params), session) =>
    (messageNexts d session params parts).map fun ((results, params), session) =>
      (⟨begun, results, params⟩, session)

/-- The session with a message begun on it, or with none. -/
def withBegun (session : Session) (begun : Bool) : Session :=
  { session with tracker := { session.tracker with messageBegun := begun } }

/-- Setting the flag as it stands changes nothing. -/
theorem withBegun_of_eq {session : Session} {begun : Bool} (same : session.tracker.messageBegun = begun) :
    session.withBegun begun = session := by
  rw [withBegun, ← same]

/-- The flag set last stands. -/
@[simp]
theorem withBegun_withBegun (session : Session) (first second : Bool) :
    (session.withBegun first).withBegun second = session.withBegun second := rfl

section After

variable {session : Session} {step : MessageStep} {succeeded goesOn : Bool}

/-- A message in a single step leaves the session as it was. -/
theorem afterMessage_whole (place : step.place = .whole) : session.afterMessage step succeeded = session := by
  rw [afterMessage, place]
  rfl

/-- The beginning of a message sets the flag. -/
theorem afterMessage_begin (place : step.place = .begin) :
    session.afterMessage step true = session.withBegun true := by
  simp [afterMessage, Tracker.afterMessage, withBegun, place]

/-- A message goes on after a part that is accepted and not the last one. -/
theorem afterMessage_part (begun : session.tracker.messageBegun = true) (place : step.place = .part !goesOn)
    (ok : goesOn = true → succeeded = true) : session.afterMessage step succeeded = session.withBegun goesOn := by
  rw [afterMessage, place, Tracker.afterMessage, begun, withBegun]
  cases goesOn with
  | false => rfl
  | true =>
    rw [ok rfl]
    rfl

end After

end Session

namespace SoftToken

variable {d : Direction} {k : UInt8} {session : Session} {token : SoftToken} {kept : Bytes} {begun : Bool}

/-- A message operation runs on an open session, here and on the token, which has the byte of the key and has
kept some bytes of the message. -/
structure Messages (d : Direction) (k : UInt8) (kept : Bytes) (begun : Bool) (session : Session)
    (token : SoftToken) : Prop where
  active : session.active.contains d.messageOperation = true
  begun : session.tracker.messageBegun = begun
  keeps : ∃ handle opened, session.handle = some handle ∧ token.sessions.get? handle = some opened ∧
    opened.message = some ⟨k, kept⟩

/-- A message operation runs, and no message has begun. What the token has kept of the last one may be
anything. -/
def Between (d : Direction) (k : UInt8) (session : Session) (token : SoftToken) : Prop :=
  ∃ kept, Messages d k kept false session token

/-- A message step is answered out of what the token keeps. -/
theorem Messages.message (messages : Messages d k kept begun session token) {step : MessageStep}
    {answer : Except Error step.Result × step.Written} {next : Bytes} {goesOn : Bool}
    (own : step.operation = d.messageOperation) (comes : begun = step.place.isPart)
    (settled : Session.settle step.verifies answer.1 = answer.1)
    (answers : ∀ opened : OpenSession, opened.message = some ⟨k, kept⟩ →
      (opened.messageStep step).1 = answer ∧ (opened.messageStep step).2.message = some ⟨k, next⟩)
    (ends : session.afterMessage step answer.1.isOk = session.withBegun goesOn) :
    ∃ later, (session.message step).run SoftToken.module token =
        ((answer, session.withBegun goesOn), later) ∧
      Messages d k next goesOn (session.withBegun goesOn) later := by
  obtain ⟨active, rfl, handle, opened, isOpen, known, hmessage⟩ := messages
  have sees : Sees session token token.objects fun opened => opened.message = some ⟨k, kept⟩ :=
    ⟨handle, opened, isOpen, view_of_known known, hmessage⟩
  have admits : session.tracker.checkMessage step.operation step.place = .ok () := by
    rw [own]
    exact Tracker.checkMessage_eq_ok_iff.2 ⟨active, comes⟩
  obtain ⟨later, hrun, own, after, hown, hview, hnext⟩ :=
    sees.message (Q := fun opened => opened.message = some ⟨k, next⟩) admits settled answers
  rw [ends] at hrun hown
  exact ⟨later, hrun, active, rfl, own, after, hown, (Prod.mk.inj hview).1, hnext⟩

/-- A whole message leaves the session as it is. -/
theorem Messages.whole (messages : Messages d k kept false session token) (params : MessageParams)
    (aad data : Bytes) :
    ∃ later, (session.messageWhole params aad data d).run SoftToken.module token =
        ((((d.close params aad (d.ciphertext k data)).1.map fun () => mask k data,
          (d.close params aad (d.ciphertext k data)).2), session), later) ∧
      Messages d k kept false session later := by
  have same := Session.withBegun_of_eq messages.begun
  suffices ∃ later, (session.messageWhole params aad data d).run SoftToken.module token =
        ((((d.close params aad (d.ciphertext k data)).1.map fun () => mask k data,
          (d.close params aad (d.ciphertext k data)).2), session.withBegun false), later) ∧
      Messages d k kept false (session.withBegun false) later by
    rwa [same] at this
  cases d with
  | encrypt =>
    refine messages.message rfl rfl rfl (fun opened h => ?_)
      ((Session.afterMessage_whole rfl).trans same.symm)
    simp [OpenSession.messageStep, Direction.close, Direction.ciphertext, h, Except.map]
  | decrypt =>
    refine messages.message rfl rfl rfl (fun opened h => ?_)
      ((Session.afterMessage_whole rfl).trans same.symm)
    simp [OpenSession.messageStep, Direction.close, Direction.ciphertext, h]

/-- Beginning a message succeeds, and the session is in it. -/
theorem Messages.begin (messages : Messages d k kept false session token) (params : MessageParams)
    (aad : Bytes) :
    ∃ later, (session.messageBegin params aad d).run SoftToken.module token =
        (((.ok (), params), session.withBegun true), later) ∧
      Messages d k aad true (session.withBegun true) later := by
  cases d with
  | encrypt =>
    refine messages.message rfl rfl rfl (fun opened h => ?_) (Session.afterMessage_begin rfl)
    simp [OpenSession.messageStep, OpenSession.withParts, h]
  | decrypt =>
    refine messages.message rfl rfl rfl (fun opened h => ?_) (Session.afterMessage_begin rfl)
    simp [OpenSession.messageStep, OpenSession.withParts, h]

/-- A part that is not the last one comes out under the key, whatever the tag. -/
theorem Messages.part (messages : Messages d k kept true session token) (params : MessageParams)
    (part : Bytes) :
    ∃ later, (session.messageNext params part false d).run SoftToken.module token =
        (((.ok (mask k part), params), session.withBegun true), later) ∧
      Messages d k (kept ++ d.ciphertext k part) true (session.withBegun true) later := by
  cases d with
  | encrypt =>
    refine messages.message rfl rfl rfl (fun opened h => ?_)
      (Session.afterMessage_part messages.begun rfl fun _ => rfl)
    simp [OpenSession.messageStep, OpenSession.withParts, Direction.ciphertext, h]
  | decrypt =>
    refine messages.message rfl rfl rfl (fun opened h => ?_)
      (Session.afterMessage_part messages.begun rfl fun _ => rfl)
    simp [OpenSession.messageStep, OpenSession.withParts, Direction.ciphertext, h, Except.map]

/-- With the last part the message is over, whether or not the tag is right. -/
theorem Messages.last (messages : Messages d k kept true session token) (params : MessageParams)
    (part : Bytes) :
    ∃ later, (session.messageNext params part true d).run SoftToken.module token =
        ((((d.close params [] (kept ++ d.ciphertext k part)).1.map fun () => mask k part,
          (d.close params [] (kept ++ d.ciphertext k part)).2), session.withBegun false), later) ∧
      Messages d k (kept ++ d.ciphertext k part) false (session.withBegun false) later := by
  cases d with
  | encrypt =>
    refine messages.message rfl rfl rfl (fun opened h => ?_)
      (Session.afterMessage_part messages.begun rfl nofun)
    simp [OpenSession.messageStep, OpenSession.withParts, Direction.ciphertext, Direction.close, h, Except.map]
  | decrypt =>
    refine messages.message rfl rfl rfl (fun opened h => ?_)
      (Session.afterMessage_part messages.begun rfl nofun)
    simp [OpenSession.messageStep, OpenSession.withParts, Direction.ciphertext, Direction.close, h]

/-- The parts of a message, one after the other: those before the last come out under the key, and what comes of
the last one is told by all of them together. -/
theorem Messages.nexts (messages : Messages d k kept true session token) (params : MessageParams)
    (parts : List Bytes) (last : Bytes) :
    ∃ later, (Session.messageNexts d session params (parts ++ [last])).run SoftToken.module token =
        ((((parts.map fun part => .ok (mask k part)) ++
            [(d.close params [] (kept ++ d.ciphertext k (parts.flatten ++ last))).1.map fun () => mask k last],
          (d.close params [] (kept ++ d.ciphertext k (parts.flatten ++ last))).2), session.withBegun false),
          later) ∧
      Messages d k (kept ++ d.ciphertext k (parts.flatten ++ last)) false (session.withBegun false) later := by
  induction parts generalizing kept session token with
  | nil =>
    obtain ⟨later, hlast, hmessages⟩ := messages.last params last
    refine ⟨later, ?_, hmessages⟩
    rw [List.nil_append, Session.messageNexts, Program.run_bind, List.isEmpty_nil, hlast]
    rfl
  | cons part parts ih =>
    obtain ⟨middle, hfirst, hmessages⟩ := messages.part params part
    obtain ⟨later, hrest, hlast⟩ := ih hmessages
    have more : (parts ++ [last]).isEmpty = false := by simp
    rw [List.append_assoc, ← Direction.ciphertext_append, ← List.append_assoc, ← List.flatten_cons] at hrest hlast
    refine ⟨later, ?_, hlast⟩
    rw [List.cons_append, Session.messageNexts, Program.run_bind, more, hfirst]
    dsimp only
    rw [Program.run_map, hrest]
    rfl

/-- A message in parts. It ends as the whole of it does: with the tag of all parts together. -/
theorem Messages.inParts (messages : Messages d k kept false session token) (params : MessageParams)
    (aad : Bytes) (parts : List Bytes) (last : Bytes) :
    ∃ later, (session.messageInParts params aad (parts ++ [last]) d).run SoftToken.module token =
        ((⟨.ok (), (parts.map fun part => .ok (mask k part)) ++
            [(d.close params aad (d.ciphertext k (parts.flatten ++ last))).1.map fun () => mask k last],
          (d.close params aad (d.ciphertext k (parts.flatten ++ last))).2⟩, session), later) ∧
      Between d k session later := by
  obtain ⟨middle, hbegin, hmessages⟩ := messages.begin params aad
  obtain ⟨later, hnexts, hlast⟩ := hmessages.nexts params parts last
  rw [Session.withBegun_withBegun, Session.withBegun_of_eq messages.begun] at hnexts hlast
  rw [Direction.close_nil_append] at hnexts
  refine ⟨later, ?_, _, hlast⟩
  rw [Session.messageInParts, Program.run_bind, hbegin]
  dsimp only
  rw [Program.run_map, hnexts]

/-! ## Between messages -/

/-- A message operation that starts with a key is between messages. -/
theorem between_of_start {key : Code} {mechanism : Mechanism} (sound : session.Sound)
    (idle : session.IsIdleOn token) (keyed : token.HasKey key k)
    (supported : (session.wireMechanism mechanism).code ∈ mechanismCodes) :
    ∃ started later, (session.start (d.messageStart key) mechanism).run SoftToken.module token =
        ((.ok (), started), later) ∧ Between d k started later := by
  obtain ⟨idle, handle, opened, isOpen, known⟩ := idle
  obtain ⟨later, hrun, hview⟩ := @run_start_of_idle token session handle key k token.objects mechanism opened
    (d.messageStart key) isOpen idle (view_of_known known) keyed (by cases d <;> rfl) supported
    (by cases d <;> rfl)
  refine ⟨_, later, hrun, [], ?_, sound.tracker.messageBegun_of_idle idle, handle, _, isOpen,
    (Prod.mk.inj hview).1, ?_⟩
  · cases d <;> simp [Session.active, Direction.messageStart, Direction.messageOperation, Start.operation]
  · cases d <;> rfl

/-- What the token has kept of the last message does not show in the next one. -/
theorem Between.next {other : SoftToken} (first : Between d k session token)
    (second : Between d k session other) (params : MessageParams) (aad : Bytes) :
    (∀ data, ((session.messageWhole params aad data d).run SoftToken.module token).1 =
      ((session.messageWhole params aad data d).run SoftToken.module other).1) ∧
    ∀ parts, ((session.messageInParts params aad parts d).run SoftToken.module token).1 =
      ((session.messageInParts params aad parts d).run SoftToken.module other).1 := by
  obtain ⟨_, first⟩ := first
  obtain ⟨_, second⟩ := second
  constructor
  · intro data
    obtain ⟨_, hfirst, -⟩ := first.whole params aad data
    obtain ⟨_, hsecond, -⟩ := second.whole params aad data
    rw [hfirst, hsecond]
  · intro parts
    by_cases none : parts = []
    · subst none
      obtain ⟨_, hfirst, -⟩ := first.begin params aad
      obtain ⟨_, hsecond, -⟩ := second.begin params aad
      rw [Session.messageInParts, Program.run_bind, Program.run_bind, hfirst, hsecond]
      rfl
    · rw [← List.dropLast_concat_getLast none]
      obtain ⟨_, hfirst, -⟩ := first.inParts params aad parts.dropLast (parts.getLast none)
      obtain ⟨_, hsecond, -⟩ := second.inParts params aad parts.dropLast (parts.getLast none)
      rw [hfirst, hsecond]

/-- A message has failed and is over, and the operation goes on: the next message comes to what it would have
come to before. -/
structure Recovered (k : UInt8) (session : Session) (token later : SoftToken) : Prop where
  between : Between .decrypt k session later
  whole : ∀ params aad data,
    ((session.messageWhole params aad data .decrypt).run SoftToken.module later).1 =
      ((session.messageWhole params aad data .decrypt).run SoftToken.module token).1
  inParts : ∀ params aad parts,
    ((session.messageInParts params aad parts .decrypt).run SoftToken.module later).1 =
      ((session.messageInParts params aad parts .decrypt).run SoftToken.module token).1

/-- A session between messages has recovered from the one before. -/
private theorem Between.recovered {later : SoftToken} (before : Between .decrypt k session token)
    (between : Between .decrypt k session later) : Recovered k session token later :=
  ⟨between, fun params aad => (between.next before params aad).1,
    fun params aad => (between.next before params aad).2⟩

/-! ## The tag -/

/-- The tag that was made is the tag expected. -/
private theorem checkTag_withTag (params : MessageParams) (aad ciphertext : Bytes) :
    checkTag (params.withTag (tagOf params aad ciphertext)) aad ciphertext = .ok () := by
  rw [checkTag, MessageParams.tag_withTag, tagOf_withTag (length_tagOf _ _ _), if_pos rfl]

/-- Any other tag of the same length is refused. -/
theorem checkTag_forged {params : MessageParams} {aad ciphertext forged : Bytes}
    (same : forged.length = params.tag.length) (other : forged ≠ tagOf params aad ciphertext) :
    checkTag (params.withTag forged) aad ciphertext = .error (.token Rv.aeadDecryptFailed) := by
  rw [checkTag, MessageParams.tag_withTag, tagOf_withTag same, if_neg other]

/-! ## Whole or in parts -/

private theorem mask_flatten (k : UInt8) (parts : List Bytes) :
    (parts.map (mask k)).flatten = mask k parts.flatten := by
  induction parts with
  | nil => rfl
  | cons part parts ih => rw [List.map_cons, List.flatten_cons, List.flatten_cons, mask_append, ih]

/-- All parts of a message that is accepted come out under the key. -/
theorem Between.inParts_ok {aad : Bytes} {parts : List Bytes} (between : Between d k session token)
    (nonempty : parts ≠ []) (accepted : (d.close params aad (d.ciphertext k parts.flatten)).1 = .ok ()) :
    ((session.messageInParts params aad parts d).run SoftToken.module token).1 =
      (⟨.ok (), (parts.map (mask k)).map .ok, (d.close params aad (d.ciphertext k parts.flatten)).2⟩,
        session) := by
  obtain ⟨init, last, rfl⟩ : ∃ init last, parts = init ++ [last] :=
    ⟨_, _, (List.dropLast_concat_getLast nonempty).symm⟩
  obtain ⟨kept, messages⟩ := between
  obtain ⟨later, hrun, -⟩ := messages.inParts params aad init last
  rw [List.flatten_append, List.flatten_singleton] at accepted ⊢
  rw [hrun, accepted]
  simp [Except.map]

/-- Of a message that is refused the last part fails. -/
theorem Between.inParts_error {aad : Bytes} {parts : List Bytes} {e : Error}
    (between : Between d k session token) (nonempty : parts ≠ [])
    (refused : (d.close params aad (d.ciphertext k parts.flatten)).1 = .error e) :
    ∃ later, (session.messageInParts params aad parts d).run SoftToken.module token =
        ((⟨.ok (), (parts.dropLast.map (mask k)).map .ok ++ [.error e],
          (d.close params aad (d.ciphertext k parts.flatten)).2⟩, session), later) ∧
      Between d k session later := by
  obtain ⟨init, last, rfl⟩ : ∃ init last, parts = init ++ [last] :=
    ⟨_, _, (List.dropLast_concat_getLast nonempty).symm⟩
  obtain ⟨kept, messages⟩ := between
  obtain ⟨later, hrun, hbetween⟩ := messages.inParts params aad init last
  refine ⟨later, ?_, hbetween⟩
  rw [List.flatten_append, List.flatten_singleton] at refused ⊢
  rw [hrun, refused]
  simp [Except.map]

/-- Between messages, a message in a single step is sealed or opened at once. -/
theorem Between.whole {aad data : Bytes} (between : Between d k session token) :
    ∃ later, (session.messageWhole params aad data d).run SoftToken.module token =
        ((((d.close params aad (d.ciphertext k data)).1.map fun () => mask k data,
          (d.close params aad (d.ciphertext k data)).2), session), later) ∧
      Between d k session later := by
  obtain ⟨kept, messages⟩ := between
  obtain ⟨later, hrun, hmessages⟩ := messages.whole params aad data
  exact ⟨later, hrun, kept, hmessages⟩

/-- Single-shot and multi-part messages agree. Whole or in parts, a message comes to the same ciphertext and the
same tag, and nothing else in the parameters changes. Whole or in any parts, the ciphertext comes to the message
under this tag, and under any other tag of its length it fails, with the last part if it comes in parts. The
decryption then goes on, and the next message is not affected. -/
theorem parts_irrelevant {sealer opener : Session} {sealing opening : SoftToken}
    (seals : Between .encrypt k sealer sealing) (opens : Between .decrypt k opener opening)
    (params : MessageParams) (aad message : Bytes) :
    ∃ ciphertext tag, tag.length = params.tag.length ∧
      ((sealer.messageWhole params aad message .encrypt).run SoftToken.module sealing).1 =
        ((.ok ciphertext, params.withTag tag), sealer) ∧
      (∀ parts : List Bytes, parts ≠ [] → parts.flatten = message → ∃ pieces : List Bytes,
        pieces.flatten = ciphertext ∧
        ((sealer.messageInParts params aad parts .encrypt).run SoftToken.module sealing).1 =
          (⟨.ok (), pieces.map .ok, params.withTag tag⟩, sealer)) ∧
      ((opener.messageWhole (params.withTag tag) aad ciphertext .decrypt).run SoftToken.module opening).1 =
        ((.ok message, params.withTag tag), opener) ∧
      (∀ parts : List Bytes, parts ≠ [] → parts.flatten = ciphertext → ∃ pieces : List Bytes,
        pieces.flatten = message ∧
        ((opener.messageInParts (params.withTag tag) aad parts .decrypt).run SoftToken.module opening).1 =
          (⟨.ok (), pieces.map .ok, params.withTag tag⟩, opener)) ∧
      ∀ forged : Bytes, forged.length = tag.length → forged ≠ tag →
        (∃ later, (opener.messageWhole (params.withTag forged) aad ciphertext .decrypt).run
              SoftToken.module opening =
            (((.error (.token Rv.aeadDecryptFailed), params.withTag forged), opener), later) ∧
          Recovered k opener opening later) ∧
        ∀ parts : List Bytes, parts ≠ [] → parts.flatten = ciphertext → ∃ (pieces : List Bytes) (later : _),
          pieces.length + 1 = parts.length ∧
          (opener.messageInParts (params.withTag forged) aad parts .decrypt).run SoftToken.module opening =
            ((⟨.ok (), pieces.map .ok ++ [.error (.token Rv.aeadDecryptFailed)], params.withTag forged⟩, opener),
              later) ∧
          Recovered k opener opening later := by
  have accepted := checkTag_withTag params aad (mask k message)
  refine ⟨mask k message, tagOf params aad (mask k message), length_tagOf _ _ _, ?_, ?_, ?_, ?_, ?_⟩
  · obtain ⟨_, hrun, -⟩ := seals.whole
    exact congrArg Prod.fst hrun
  · rintro parts nonempty rfl
    exact ⟨_, mask_flatten k parts, seals.inParts_ok nonempty rfl⟩
  · obtain ⟨_, hrun, -⟩ := opens.whole
    rw [hrun, Direction.ciphertext, Direction.close, accepted, mask_mask]
    rfl
  · intro parts nonempty cut
    refine ⟨_, (mask_flatten k parts).trans (by rw [cut, mask_mask]), ?_⟩
    exact opens.inParts_ok nonempty (by rw [cut]; exact accepted)
  intro forged same other
  -- A tag is computed from the ciphertext, so another one of its length cannot pass.
  have refused := checkTag_forged (same.trans (length_tagOf _ _ _)) other
  constructor
  · obtain ⟨later, hrun, hbetween⟩ := opens.whole
    refine ⟨later, ?_, opens.recovered hbetween⟩
    rw [hrun, Direction.ciphertext, Direction.close, refused]
    rfl
  · intro parts nonempty cut
    obtain ⟨later, hrun, hbetween⟩ := opens.inParts_error nonempty (by rw [cut]; exact refused)
    refine ⟨_, later, ?_, hrun, opens.recovered hbetween⟩
    rw [List.length_map, List.length_dropLast, Nat.sub_add_cancel (List.length_pos_iff.2 nonempty)]

/-- A message encryption and a message decryption are started with one key. A message in three parts, one of them
empty, is encrypted to what the whole of it is, and decrypted whole. -/
theorem parts_irrelevant_withKey :
    ∃ sealer sealing opener opening ciphertext tag,
      ((Session.opened (.bare tokenSlot) 2).start (.messageEncrypt 1) ⟨MechanismType.aesGcm, .none⟩).run
          SoftToken.module (withKey 0x5A) = ((.ok (), sealer), sealing) ∧
      ((Session.opened (.bare tokenSlot) 2).start (.messageDecrypt 1) ⟨MechanismType.aesGcm, .none⟩).run
          SoftToken.module (withKey 0x5A) = ((.ok (), opener), opening) ∧
      ((sealer.messageWhole (.chaCha20Poly1305 [0x07] [0x00, 0x00]) [0x08] [0x01, 0x02, 0x03] .encrypt).run
          SoftToken.module sealing).1 = ((.ok ciphertext, .chaCha20Poly1305 [0x07] tag), sealer) ∧
      (∃ pieces : List Bytes, pieces.flatten = ciphertext ∧
        ((sealer.messageInParts (.chaCha20Poly1305 [0x07] [0x00, 0x00]) [0x08] [[0x01], [], [0x02, 0x03]]
            .encrypt).run SoftToken.module sealing).1 =
          (⟨.ok (), pieces.map .ok, .chaCha20Poly1305 [0x07] tag⟩, sealer)) ∧
      ((opener.messageWhole (.chaCha20Poly1305 [0x07] tag) [0x08] ciphertext .decrypt).run
          SoftToken.module opening).1 =
        ((.ok [0x01, 0x02, 0x03], .chaCha20Poly1305 [0x07] tag), opener) := by
  have sound : (Session.opened (.bare tokenSlot) 2).Sound := ⟨Tracker.sound_idle, fun _ => rfl⟩
  have starts (d : Direction) := @between_of_start d _ _ _ _ ⟨MechanismType.aesGcm, .none⟩ sound
    (isIdleOn_withKey 0x5A) (hasKey_withKey 0x5A) (by decide)
  obtain ⟨sealer, sealing, hsealing, seals⟩ := starts .encrypt
  obtain ⟨opener, opening, hopening, opens⟩ := starts .decrypt
  obtain ⟨ciphertext, tag, -, hwhole, hparts, hback, -⟩ := parts_irrelevant seals opens
    (.chaCha20Poly1305 [0x07] [0x00, 0x00]) [0x08] [0x01, 0x02, 0x03]
  exact ⟨sealer, sealing, opener, opening, ciphertext, tag, hsealing, hopening, hwhole,
    hparts [[0x01], [], [0x02, 0x03]] (by decide) rfl, hback⟩

end SoftToken

end TokenClient
