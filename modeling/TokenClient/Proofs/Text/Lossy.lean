import TokenClient.Proofs.Text.Sequences

/-!
# Reading what is no text

Any bytes are read. What no character starts with is read as one replacement character for the longest part that opens
a character, or for a single byte if none is opened (`Utf8.Broken`). This settles what is read (`Utf8.ReadsAs`,
`Utf8.decodeLossy_eq_iff`), because the bytes say where the part ends: at the first byte that is out of its bounds
(`Utf8.Stops`).

So bytes are given back after a reading just if they are well-formed, and what was read is read again in any case
(`Encoding.texts_as_bytes`). Latin-1 is the other way round: each byte is a character, so all bytes are given back, and
of a text those characters are lost that have no byte.
-/

namespace TokenClient

namespace Text.Utf8

variable {part part' rest rest' longer piece tail : Bytes} {bounds : List Bounds} {bytes : Bytes} {cs : List Char}

/-! ## Parts that are no character -/

/-- Bytes that a character starts with. -/
def Opens (part : Bytes) : Prop := ∃ piece, IsCharacter piece ∧ part <+: piece

/-- The part in front of the rest is read as no character: none starts there, and it is the longest part that opens
one, or a single byte. -/
structure Broken (part rest : Bytes) : Prop where
  filled : part ≠ []
  unreadable : ∀ piece, IsCharacter piece → ¬ piece <+: part ++ rest
  opens : part.length = 1 ∨ Opens part
  longest : ∀ longer, longer <+: part ++ rest → Opens longer → longer.length ≤ part.length

/-- What bytes are read as: their characters, and a replacement character for each part that is none. -/
inductive ReadsAs : Bytes → List Char → Prop
  | nil : ReadsAs [] []
  | character {rest : Bytes} {cs : List Char} (c : Char) (later : ReadsAs rest cs) :
      ReadsAs (encodeChar c ++ rest) (c :: cs)
  | broken {part rest : Bytes} {cs : List Char} (broken : Broken part rest) (later : ReadsAs rest cs) :
      ReadsAs (part ++ rest) ('\uFFFD' :: cs)

/-- A character in front of bytes has their first one for its own. -/
theorem IsCharacter.exists_tail {first : UInt8} (character : IsCharacter piece) (starts : piece <+: first :: bytes) :
    ∃ tail, piece = first :: tail ∧ tail <+: bytes := by
  obtain ⟨b, tail, rfl⟩ := List.exists_cons_of_ne_nil character.ne_nil
  obtain ⟨rfl, htail⟩ := List.cons_prefix_cons.1 starts
  exact ⟨tail, rfl, htail⟩

/-- What opens a character is completed after its first byte. -/
theorem Opens.exists_tail {first : UInt8} (opens : Opens (first :: part)) :
    ∃ tail, IsCharacter (first :: tail) ∧ part <+: tail := by
  obtain ⟨piece, character, starts⟩ := opens
  obtain ⟨b, tail, rfl⟩ := List.exists_cons_of_ne_nil character.ne_nil
  obtain ⟨rfl, htail⟩ := List.cons_prefix_cons.1 starts
  exact ⟨tail, character, htail⟩

/-- No broken part is longer than another at the same place, so there is one only. -/
private theorem Broken.length_le (broken : Broken part rest) (broken' : Broken part' rest')
    (same : part ++ rest = part' ++ rest') : part.length ≤ part'.length := by
  rcases broken.opens with hone | opens
  · rw [hone]
    exact List.length_pos_iff.2 broken'.filled
  · exact broken'.longest part ⟨rest, same⟩ opens

/-- The part that is read as no character is settled. -/
theorem Broken.unique (broken : Broken part rest) (broken' : Broken part' rest')
    (same : part ++ rest = part' ++ rest') : part = part' ∧ rest = rest' :=
  List.append_inj same (Nat.le_antisymm (broken.length_le broken' same) (broken'.length_le broken same.symm))

/-! ## Where a part ends -/

/-- Bytes keep to bounds until there are no more, or one is out of its bounds, and that before the last one. -/
inductive Stops : List Bounds → Bytes → Bytes → Prop
  | here {next : Bounds} {others : List Bounds} {rest : Bytes} (out : ∀ b ∈ rest.head?, ¬ Within b next) :
      Stops (next :: others) [] rest
  | later {first : Bounds} {others : List Bounds} {b : UInt8} {tail rest : Bytes} (within : Within b first)
      (stops : Stops others tail rest) : Stops (first :: others) (b :: tail) rest

private theorem Stops.length_lt (stops : Stops bounds tail rest) : tail.length < bounds.length := by
  induction stops with
  | here _ => exact Nat.succ_pos _
  | later _ _ ih => exact Nat.succ_lt_succ ih

/-- No bytes within the bounds agree with these beyond the place where these stop. -/
theorem Stops.length_le (stops : Stops bounds tail rest) (starts : longer <+: tail ++ rest) (within : longer <+: piece)
    (keeps : List.Forall₂ Within piece bounds) : longer.length ≤ tail.length := by
  induction stops generalizing longer piece with
  | here out =>
    cases longer with
    | nil => exact Nat.le_refl _
    | cons b longer =>
      obtain ⟨b', piece', hb', -, rfl⟩ := List.forall₂_cons_right_iff.1 keeps
      obtain ⟨rfl, -⟩ := List.cons_prefix_cons.1 within
      obtain ⟨beyond, rfl⟩ := starts
      exact absurd hb' (out b rfl)
  | later _ _ ih =>
    cases longer with
    | nil => exact Nat.zero_le _
    | cons b longer =>
      obtain ⟨b', piece', -, hpiece', rfl⟩ := List.forall₂_cons_right_iff.1 keeps
      obtain ⟨-, within'⟩ := List.cons_prefix_cons.1 within
      obtain ⟨-, starts'⟩ := List.cons_prefix_cons.1 starts
      exact Nat.succ_le_succ (ih starts' within' hpiece')

/-- Bytes that stop are completed by the lowest ones that the other bounds admit. -/
theorem Stops.exists_completion (stops : Stops bounds tail rest)
    (sound : ∀ bound ∈ bounds, bound.1 ≤ bound.2 ∧ bound.2 < 256) :
    ∃ piece, tail <+: piece ∧ List.Forall₂ Within piece bounds := by
  induction stops with
  | @here next others _ _ =>
    refine ⟨(next :: others).map fun bound => UInt8.ofNat bound.1, List.nil_prefix, ?_⟩
    rw [List.forall₂_map_left_iff, List.forall₂_same]
    intro bound hmem
    obtain ⟨hle, hlt⟩ := sound bound hmem
    rw [Within, toNat_ofNat (by omega)]
    exact ⟨Nat.le_refl _, hle⟩
  | later within _ ih =>
    obtain ⟨piece, starts, keeps⟩ := ih fun bound hmem => sound bound (List.mem_cons_of_mem _ hmem)
    exact ⟨_, List.cons_prefix_cons.2 ⟨rfl, starts⟩, .cons within keeps⟩

private theorem sound_bounds {b : Nat} {lead : Lead} (opens : lead? b = some lead) :
    ∀ bound ∈ lead.bounds, bound.1 ≤ bound.2 ∧ bound.2 < 256 := by
  intro bound hmem
  rcases List.mem_cons.1 hmem with rfl | hmem
  · unfold lead? at opens
    split_ifs at opens <;> obtain rfl := Option.some.inj opens <;> dsimp only <;> omega
  · rw [List.eq_of_mem_replicate hmem]
    decide

/-- A byte that is none of ASCII, and those after it that keep to the bounds it sets, are no character if these stop. -/
theorem broken_of_stops {first : UInt8} {lead : Lead} (several : ¬ first.toNat < 0x80)
    (hlead : lead? first.toNat = some lead) (stops : Stops lead.bounds tail rest) : Broken (first :: tail) rest := by
  have hkeeps {tail' : Bytes} (h : IsCharacter (first :: tail')) : List.Forall₂ Within tail' lead.bounds := by
    rcases isCharacter_cons_iff.1 h with ⟨hascii, -⟩ | ⟨lead', hlead', keeps⟩
    · exact absurd hascii several
    · rw [hlead] at hlead'
      cases hlead'
      exact keeps
  refine ⟨List.cons_ne_nil _ _, ?_, .inr ?_, ?_⟩
  · intro piece hpiece starts
    obtain ⟨tail', rfl, starts'⟩ := hpiece.exists_tail starts
    have hle := stops.length_le starts' List.prefix_rfl (hkeeps hpiece)
    rw [(hkeeps hpiece).length_eq] at hle
    exact absurd stops.length_lt (Nat.not_lt_of_le hle)
  · obtain ⟨tail', starts, keeps⟩ := stops.exists_completion (sound_bounds hlead)
    exact ⟨first :: tail', isCharacter_cons_iff.2 (.inr ⟨lead, hlead, keeps⟩), List.cons_prefix_cons.2 ⟨rfl, starts⟩⟩
  · intro longer starts opens
    cases longer with
    | nil => exact Nat.zero_le _
    | cons b longer =>
      obtain ⟨rfl, starts'⟩ := List.cons_prefix_cons.1 starts
      obtain ⟨tail', hpiece, within'⟩ := opens.exists_tail
      exact Nat.succ_le_succ (stops.length_le starts' within' (hkeeps hpiece))

/-- A byte that opens no character is one by itself that is read as none. -/
theorem broken_of_no_lead {first : UInt8} (several : ¬ first.toNat < 0x80) (hlead : lead? first.toNat = none)
    (rest : Bytes) : Broken [first] rest := by
  have hnone (tail' : Bytes) : ¬ IsCharacter (first :: tail') := by
    rw [isCharacter_cons_iff]
    rintro (⟨hascii, -⟩ | ⟨lead, hlead', -⟩)
    · exact several hascii
    · rw [hlead] at hlead'
      cases hlead'
  refine ⟨List.cons_ne_nil _ _, ?_, .inl rfl, ?_⟩
  · intro piece hpiece starts
    obtain ⟨tail', rfl, -⟩ := hpiece.exists_tail starts
    exact hnone tail' hpiece
  · intro longer starts opens
    cases longer with
    | nil => exact Nat.zero_le _
    | cons b longer =>
      obtain ⟨rfl, -⟩ := List.cons_prefix_cons.1 starts
      obtain ⟨tail', hpiece, -⟩ := opens.exists_tail
      exact absurd hpiece (hnone tail')

/-! ## What a scan takes off -/

/-- Where continuation bytes run out, the sequence stops. -/
private theorem stops_of_continuation {bits count : Nat} (h : continuation bits count bytes = (none, rest)) :
    ∃ tail, bytes = tail ++ rest ∧ Stops (List.replicate count tailBounds) tail rest := by
  fun_induction continuation bits count bytes with
  | case1 => cases h
  | case2 =>
    cases h
    exact ⟨[], rfl, .here (by simp)⟩
  | case3 bits count b bytes hb ih =>
    obtain ⟨tail, rfl, stops⟩ := ih h
    simp only [Bool.and_eq_true, decide_eq_true_eq] at hb
    exact ⟨b :: tail, rfl, .later hb stops⟩
  | case4 bits count b bytes hb =>
    cases h
    refine ⟨[], rfl, .here ?_⟩
    rintro b' hb' within
    cases hb'
    simp only [Bool.and_eq_true, decide_eq_true_eq] at hb
    exact hb within

/-- A scan that finds no character takes off the part that is read as none. -/
theorem broken_of_scan {first : UInt8} (h : scan first bytes = (none, rest)) :
    ∃ tail, bytes = tail ++ rest ∧ Broken (first :: tail) rest := by
  unfold scan at h
  -- In the order of the scan: the byte opens nothing, nothing follows it, or a byte out of bounds does.
  split at h
  next => cases h
  next several =>
    split at h
    next hlead =>
      cases h
      exact ⟨[], rfl, broken_of_no_lead several hlead _⟩
    next hlead =>
      cases h
      exact ⟨[], rfl, broken_of_stops several hlead (.here (by simp))⟩
    next lead second tail hlead =>
      split at h
      next hsecond =>
        simp only [Bool.and_eq_true, decide_eq_true_eq] at hsecond
        obtain ⟨tail', rfl, stops⟩ := stops_of_continuation h
        exact ⟨second :: tail', rfl, broken_of_stops several hlead (.later hsecond stops)⟩
      next hsecond =>
        cases h
        refine ⟨[], rfl, broken_of_stops several hlead (.here ?_)⟩
        rintro b hb within
        cases hb
        simp only [Bool.and_eq_true, decide_eq_true_eq] at hsecond
        exact hsecond within

/-! ## Reading -/

/-- A well-formed character is read as itself. -/
private theorem decodeLossy_encodeChar_append (c : Char) (rest : Bytes) :
    decodeLossy (encodeChar c ++ rest) = c :: decodeLossy rest := by
  obtain ⟨b, tail, hchar, hscan⟩ := scan_encodeChar c rest
  rw [hchar, List.cons_append, decodeLossy, hscan]
  simp only [Char.ofNat_toNat]

/-- A broken part is read as one mark. -/
private theorem Broken.decodeLossy_append (broken : Broken part rest) :
    decodeLossy (part ++ rest) = '\uFFFD' :: decodeLossy rest := by
  obtain ⟨first, tail, rfl⟩ := List.exists_cons_of_ne_nil broken.filled
  rw [List.cons_append, decodeLossy]
  cases hscan : scan first (tail ++ rest) with
  | mk found left =>
    cases found with
    | some n =>
      have hpiece := eq_encodeChar_of_scan hscan
      exact absurd ⟨left, hpiece.symm⟩ (broken.unreadable _ (isCharacter_encodeChar _))
    | none =>
      obtain ⟨tail', htail, broken'⟩ := broken_of_scan hscan
      obtain ⟨-, rfl⟩ := broken.unique broken' (by rw [List.cons_append, List.cons_append, htail])
      rfl

/-- Lossy decoding reads bytes as characters and as one mark for each broken part. -/
theorem readsAs_decodeLossy (bytes : Bytes) : ReadsAs bytes (decodeLossy bytes) := by
  fun_induction decodeLossy bytes with
  | case1 => exact .nil
  | case2 b bytes ih =>
    cases hscan : scan b bytes with
    | mk found left =>
      rw [hscan] at ih
      cases found with
      | some n =>
        rw [eq_encodeChar_of_scan hscan]
        exact .character _ ih
      | none =>
        obtain ⟨tail, rfl, broken⟩ := broken_of_scan hscan
        exact .broken broken ih

/-- Bytes are read as their characters, with a replacement character for each part that is none. -/
theorem decodeLossy_eq_iff : decodeLossy bytes = cs ↔ ReadsAs bytes cs := by
  constructor
  · rintro rfl
    exact readsAs_decodeLossy bytes
  · intro reads
    induction reads with
    | nil => rw [decodeLossy]
    | character c _ ih => rw [decodeLossy_encodeChar_append, ih]
    | broken broken _ ih => rw [broken.decodeLossy_append, ih]

/-- Bytes are given back after a reading just if they are well-formed. -/
theorem encode_decodeLossy_iff : encode (decodeLossy bytes) = bytes ↔ WellFormed bytes := by
  rw [wellFormed_iff]
  constructor
  · exact fun h => ⟨_, h⟩
  · rintro ⟨cs, rfl⟩
    rw [decodeLossy_encode]

end Text.Utf8

namespace Encoding

/-! ## Encodings -/

/-- The character that is left of one in Latin-1. -/
theorem ofNat_latin1Byte (c : Char) : Char.ofNat (latin1Byte c).toNat = if c.toNat ≤ 0xFF then c else '?' := by
  unfold latin1Byte
  by_cases hlow : c.toNat < 256
  · rw [if_pos hlow, if_pos (Nat.le_of_lt_succ hlow), Text.Utf8.toNat_ofNat hlow, Char.ofNat_toNat]
  · rw [if_neg hlow, if_neg fun h => hlow (Nat.lt_succ_of_le h)]
    rfl

private theorem toNat_latin1Byte (c : Char) : (latin1Byte c).toNat = if c.toNat ≤ 0xFF then c.toNat else 0x3F := by
  unfold latin1Byte
  by_cases hlow : c.toNat < 256
  · rw [if_pos hlow, if_pos (Nat.le_of_lt_succ hlow), Text.Utf8.toNat_ofNat hlow]
  · rw [if_neg hlow, if_neg fun h => hlow (Nat.lt_succ_of_le h)]
    rfl

private theorem latin1Byte_ofNat (b : UInt8) : latin1Byte (Char.ofNat b.toNat) = b := by
  have hb : b.toNat < 256 := b.toNat_lt
  have hchar : (Char.ofNat b.toNat).toNat = b.toNat := Text.Utf8.toNat_charOfNat (by omega)
  rw [latin1Byte, hchar, if_pos hb, UInt8.ofNat_toNat]

/-- Only the characters beyond Latin-1 are replaced. -/
private theorem toList_decode_encode_latin1 (text : String) :
    (latin1.decode (latin1.encode text)).toList = text.toList.map fun c => if c.toNat ≤ 0xFF then c else '?' := by
  rw [decode, encode, String.toList_ofList, List.map_map]
  exact List.map_congr_left fun c _ => ofNat_latin1Byte c

/-- Bytes are given back after a reading as Latin-1. -/
theorem encode_decode_latin1 (bytes : Bytes) : latin1.encode (latin1.decode bytes) = bytes := by
  rw [encode, decode, String.toList_ofList, List.map_map]
  exact (List.map_congr_left fun b _ => latin1Byte_ofNat b).trans (List.map_id' bytes)

/-- A text is read back from its Latin-1 bytes just if it fits. -/
theorem decode_encode_latin1_iff (text : String) :
    latin1.decode (latin1.encode text) = text ↔ latin1.Fits text := by
  constructor
  · intro h
    rw [← h]
    exact fits_decode latin1 _
  · exact decode_encode

/-- In UTF-8 a text has the bytes of a string and is read back from them, any bytes are read as their characters and
replacement characters, and they are given back just if they are well-formed; what was read is read again in any case.
In Latin-1 any bytes are given back, each character of a text is one byte, and those above U+00FF are a question mark
and the only ones that are lost. -/
theorem texts_as_bytes :
    (∀ text, utf8.encode text = text.toByteArray.data.toList) ∧
    (∀ text, utf8.decode (utf8.encode text) = text) ∧
    (∀ bytes text, utf8.decode bytes = text ↔ Text.Utf8.ReadsAs bytes text.toList) ∧
    (∀ bytes, utf8.encode (utf8.decode bytes) = bytes ↔ Text.Utf8.WellFormed bytes) ∧
    (∀ bytes, utf8.decode (utf8.encode (utf8.decode bytes)) = utf8.decode bytes) ∧
    (∀ bytes, latin1.encode (latin1.decode bytes) = bytes) ∧
    (∀ text, (latin1.encode text).map UInt8.toNat =
      text.toList.map fun c => if c.toNat ≤ 0xFF then c.toNat else '?'.toNat) ∧
    (∀ text, (latin1.decode (latin1.encode text)).toList =
      text.toList.map fun c => if c.toNat ≤ 0xFF then c else '?') ∧
    (∀ text, latin1.decode (latin1.encode text) = text ↔ ∀ c ∈ text.toList, c.toNat ≤ 0xFF) := by
  have decode_encode_utf8 (text : String) : utf8.decode (utf8.encode text) = text := decode_encode trivial
  refine ⟨Text.Utf8.encode_toList, decode_encode_utf8, fun bytes text => ?_, fun bytes => ?_,
    fun bytes => decode_encode_utf8 _, encode_decode_latin1, fun text => ?_, toList_decode_encode_latin1,
    decode_encode_latin1_iff⟩
  · rw [decode, ← Text.Utf8.decodeLossy_eq_iff, ← String.toList_inj, String.toList_ofList]
  · rw [decode, encode, String.toList_ofList, Text.Utf8.encode_decodeLossy_iff]
  · rw [encode, List.map_map]
    exact List.map_congr_left fun c _ => toNat_latin1Byte c

end Encoding

end TokenClient
