import Mathlib.Data.List.Forall2
import TokenClient.Proofs.Text.WellFormed

/-!
# The byte sequences that are characters

The standard lists the byte sequences of UTF-8 row by row, with bounds for each byte (`Utf8.rows`). They are the ones
that characters are written as (`Utf8.isCharacter_iff`): a first byte settles the bounds of those after it, and these
are the bounds by which `scan` goes (`Lead.bounds`, `Utf8.isCharacter_cons_iff`). A byte string is well-formed if it is
cut into such sequences, and so it is just if it is what some text is written as (`Utf8.wellFormed_iff`).
-/

namespace TokenClient.Text.Utf8

/-! ## The table -/

/-- The lowest and the highest byte that may stand at a place. -/
abbrev Bounds := Nat × Nat

def Within (b : UInt8) (bounds : Bounds) : Prop := bounds.1 ≤ b.toNat ∧ b.toNat ≤ bounds.2

/-- The bounds of the bytes that continue a character, where nothing narrower is said. -/
def tailBounds : Bounds := (0x80, 0xBF)

/-- The byte sequences of UTF-8, with bounds for each byte. -/
def rows : List (List Bounds) :=
  [[(0x00, 0x7F)],
   [(0xC2, 0xDF), tailBounds],
   [(0xE0, 0xE0), (0xA0, 0xBF), tailBounds],
   [(0xE1, 0xEC), tailBounds, tailBounds],
   [(0xED, 0xED), (0x80, 0x9F), tailBounds],
   [(0xEE, 0xEF), tailBounds, tailBounds],
   [(0xF0, 0xF0), (0x90, 0xBF), tailBounds, tailBounds],
   [(0xF1, 0xF3), tailBounds, tailBounds, tailBounds],
   [(0xF4, 0xF4), (0x80, 0x8F), tailBounds, tailBounds]]

/-- A byte sequence is in one of the rows. -/
def IsCharacter (piece : Bytes) : Prop := ∃ row ∈ rows, List.Forall₂ Within piece row

/-- A byte string is cut into characters. -/
def WellFormed (bytes : Bytes) : Prop :=
  ∃ pieces : List Bytes, pieces.flatten = bytes ∧ ∀ piece ∈ pieces, IsCharacter piece

/-! ## What a first byte settles -/

/-- The bounds of the bytes after a first one. -/
def Lead.bounds (lead : Lead) : List Bounds := (lead.low, lead.high) :: List.replicate lead.further tailBounds

variable {first : UInt8} {piece tail rest : Bytes} {lead : Lead} {bits count : Nat}

/-- A first byte of several opens a row, and has the bounds of the row for those after it. -/
theorem exists_row_of_lead (opens : lead? first.toNat = some lead) :
    ∃ bounds : Bounds, Within first bounds ∧ bounds :: lead.bounds ∈ rows := by
  unfold lead? at opens
  split_ifs at opens <;> obtain rfl := Option.some.inj opens
  · exact ⟨(0xC2, 0xDF), ⟨by dsimp only; omega, by dsimp only; omega⟩, by simp [rows, Lead.bounds, tailBounds]⟩
  · exact ⟨(0xE0, 0xE0), ⟨by dsimp only; omega, by dsimp only; omega⟩, by simp [rows, Lead.bounds, tailBounds]⟩
  · exact ⟨(0xED, 0xED), ⟨by dsimp only; omega, by dsimp only; omega⟩, by simp [rows, Lead.bounds, tailBounds]⟩
  -- The rows on either side of the surrogates have the same bounds after the first byte.
  · by_cases hlow : first.toNat ≤ 0xEC
    · exact ⟨(0xE1, 0xEC), ⟨by dsimp only; omega, hlow⟩, by simp [rows, Lead.bounds, tailBounds]⟩
    · exact ⟨(0xEE, 0xEF), ⟨by dsimp only; omega, by dsimp only; omega⟩, by simp [rows, Lead.bounds, tailBounds]⟩
  · exact ⟨(0xF0, 0xF0), ⟨by dsimp only; omega, by dsimp only; omega⟩, by simp [rows, Lead.bounds, tailBounds]⟩
  · exact ⟨(0xF1, 0xF3), ⟨by dsimp only; omega, by dsimp only; omega⟩, by simp [rows, Lead.bounds, tailBounds]⟩
  · exact ⟨(0xF4, 0xF4), ⟨by dsimp only; omega, by dsimp only; omega⟩, by simp [rows, Lead.bounds, tailBounds]⟩

/-- A row of a single byte is that of ASCII, and the others go by their first byte. -/
theorem lead_of_row {bounds : Bounds} {others : List Bounds} (row : bounds :: others ∈ rows)
    (within : Within first bounds) :
    first.toNat < 0x80 ∧ others = [] ∨ ∃ lead, lead? first.toNat = some lead ∧ lead.bounds = others := by
  obtain ⟨low, high⟩ := within
  simp only [rows, List.mem_cons, List.cons.injEq, List.not_mem_nil, or_false] at row
  unfold lead?
  rcases row with ⟨rfl, rfl⟩ | ⟨rfl, rfl⟩ | ⟨rfl, rfl⟩ | ⟨rfl, rfl⟩ | ⟨rfl, rfl⟩ | ⟨rfl, rfl⟩ | ⟨rfl, rfl⟩ |
    ⟨rfl, rfl⟩ | ⟨rfl, rfl⟩ <;> dsimp only at low high
  · exact .inl ⟨by omega, rfl⟩
  all_goals right
  · rw [if_neg (by omega), if_pos (by omega)]
    exact ⟨_, rfl, rfl⟩
  · rw [if_neg (by omega), if_neg (by omega), if_pos (by omega)]
    exact ⟨_, rfl, rfl⟩
  · rw [if_neg (by omega), if_neg (by omega), if_neg (by omega), if_neg (by omega), if_pos (by omega)]
    exact ⟨_, rfl, rfl⟩
  · rw [if_neg (by omega), if_neg (by omega), if_neg (by omega), if_pos (by omega)]
    exact ⟨_, rfl, rfl⟩
  · rw [if_neg (by omega), if_neg (by omega), if_neg (by omega), if_neg (by omega), if_pos (by omega)]
    exact ⟨_, rfl, rfl⟩
  · rw [if_neg (by omega), if_neg (by omega), if_neg (by omega), if_neg (by omega), if_neg (by omega),
      if_pos (by omega)]
    exact ⟨_, rfl, rfl⟩
  · rw [if_neg (by omega), if_neg (by omega), if_neg (by omega), if_neg (by omega), if_neg (by omega),
      if_neg (by omega), if_pos (by omega)]
    exact ⟨_, rfl, rfl⟩
  · rw [if_neg (by omega), if_neg (by omega), if_neg (by omega), if_neg (by omega), if_neg (by omega),
      if_neg (by omega), if_neg (by omega), if_pos (by omega)]
    exact ⟨_, rfl, rfl⟩

/-- A character is a single byte, or what its first byte settles follows. -/
theorem isCharacter_cons_iff :
    IsCharacter (first :: tail) ↔
      first.toNat < 0x80 ∧ tail = [] ∨
        ∃ lead, lead? first.toNat = some lead ∧ List.Forall₂ Within tail lead.bounds := by
  constructor
  · rintro ⟨row, hrow, hpiece⟩
    obtain ⟨bounds, others, hfirst, htail, rfl⟩ := List.forall₂_cons_left_iff.1 hpiece
    rcases lead_of_row hrow hfirst with ⟨hascii, rfl⟩ | ⟨lead, opens, rfl⟩
    · exact .inl ⟨hascii, List.forall₂_nil_right_iff.1 htail⟩
    · exact .inr ⟨lead, opens, htail⟩
  · rintro (⟨hascii, rfl⟩ | ⟨lead, opens, htail⟩)
    · exact ⟨[(0x00, 0x7F)], by simp [rows], .cons ⟨Nat.zero_le _, Nat.le_of_lt_succ hascii⟩ .nil⟩
    · obtain ⟨bounds, hfirst, hrow⟩ := exists_row_of_lead opens
      exact ⟨_, hrow, .cons hfirst htail⟩

/-- No character is written as nothing. -/
theorem IsCharacter.ne_nil (h : IsCharacter piece) : piece ≠ [] := by
  rintro rfl
  obtain ⟨row, hrow, hpiece⟩ := h
  rw [List.forall₂_nil_left_iff.1 hpiece] at hrow
  simp [rows] at hrow

/-! ## Characters and what they are written as -/

/-- Continuation bytes within their bounds are all taken up. -/
private theorem continuation_of_within
    (within : List.Forall₂ Within tail (List.replicate count tailBounds)) (bits : Nat)
    (rest : Bytes) : ∃ n, continuation bits count (tail ++ rest) = (some n, rest) := by
  induction count generalizing bits tail with
  | zero =>
    rw [List.replicate_zero, List.forall₂_nil_right_iff] at within
    rw [within, List.nil_append, continuation_zero]
    exact ⟨bits, rfl⟩
  | succ count ih =>
    obtain ⟨b, others, ⟨low, high⟩, hothers, rfl⟩ := List.forall₂_cons_right_iff.1 within
    rw [List.cons_append, continuation, if_pos (by simpa using ⟨low, high⟩)]
    exact ih hothers _

/-- A character is taken off the front, whatever follows. -/
theorem IsCharacter.scan_eq (h : IsCharacter (first :: tail)) (rest : Bytes) :
    ∃ n, scan first (tail ++ rest) = (some n, rest) := by
  unfold scan
  rcases isCharacter_cons_iff.1 h with ⟨hascii, rfl⟩ | ⟨lead, opens, htail⟩
  · rw [if_pos hascii]
    exact ⟨_, rfl⟩
  · have hnot : ¬ first.toNat < 0x80 := by
      intro hlt
      rw [lead?, if_pos (by omega)] at opens
      cases opens
    obtain ⟨second, others, ⟨low, high⟩, hothers, rfl⟩ := List.forall₂_cons_right_iff.1 htail
    rw [if_neg hnot, opens, List.cons_append]
    dsimp only
    rw [if_pos (by simpa using ⟨low, high⟩)]
    exact continuation_of_within hothers _ _

/-- A byte that carries six bits of a character continues one. -/
theorem within_tailBounds (n : Nat) : Within (UInt8.ofNat (0x80 + n % 64)) tailBounds := by
  rw [Within, toNat_ofNat (by omega), tailBounds]
  dsimp only
  omega

/-- What a character is written as is in one of the rows. -/
theorem isCharacter_encodeChar (c : Char) : IsCharacter (encodeChar c) := by
  have hscalar := scalar_toNat c
  rw [encodeChar]
  generalize c.toNat = n at hscalar
  by_cases hone : n < 0x80
  · rw [if_pos hone, isCharacter_cons_iff, toNat_ofNat (by omega)]
    exact .inl ⟨hone, rfl⟩
  rw [if_neg hone]
  by_cases htwo : n < 0x800
  · rw [if_pos htwo, isCharacter_cons_iff, toNat_ofNat (by omega)]
    exact .inr ⟨_, lead?_two (by omega) htwo, .cons (within_tailBounds n) .nil⟩
  rw [if_neg htwo]
  by_cases hthree : n < 0x10000
  · obtain ⟨lead, opens, -, hfurther, hlow, hhigh⟩ := lead?_three (by omega) hthree (hscalar.imp_right And.left)
    rw [if_pos hthree, isCharacter_cons_iff, toNat_ofNat (by omega)]
    refine .inr ⟨lead, opens, ?_⟩
    rw [Lead.bounds, hfurther]
    refine .cons ?_ (.cons (within_tailBounds n) .nil)
    rw [Within, toNat_ofNat (by omega)]
    exact ⟨hlow, hhigh⟩
  · obtain ⟨lead, opens, -, hfurther, hlow, hhigh⟩ := lead?_four (show 0x10000 ≤ n by omega) (by omega)
    rw [if_neg hthree, isCharacter_cons_iff, toNat_ofNat (by omega)]
    refine .inr ⟨lead, opens, ?_⟩
    rw [Lead.bounds, hfurther]
    refine .cons ?_ (.cons (within_tailBounds _) (.cons (within_tailBounds n) .nil))
    rw [Within, toNat_ofNat (by omega)]
    exact ⟨hlow, hhigh⟩

/-- The byte sequences of the rows are those that characters are written as. -/
theorem isCharacter_iff : IsCharacter piece ↔ ∃ c, encodeChar c = piece := by
  constructor
  · intro h
    obtain ⟨first, tail, rfl⟩ := List.exists_cons_of_ne_nil h.ne_nil
    obtain ⟨n, hscan⟩ := h.scan_eq []
    have hpiece := eq_encodeChar_of_scan hscan
    rw [List.append_nil, List.append_nil] at hpiece
    exact ⟨Char.ofNat n, hpiece.symm⟩
  · rintro ⟨c, rfl⟩
    exact isCharacter_encodeChar c

/-- A character has the bytes that it has in a string of the core library. -/
theorem encodeChar_eq (c : Char) : encodeChar c = String.utf8EncodeChar c := by
  have hscalar := scalar_toNat c
  have hval : c.val.toNat = c.toNat := rfl
  rw [encodeChar, String.utf8EncodeChar, hval]
  generalize c.toNat = n at hscalar
  by_cases hone : n < 0x80
  · rw [if_pos hone, if_pos (Nat.le_of_lt_succ hone)]
  rw [if_neg hone, if_neg (show ¬ n ≤ 127 by omega)]
  by_cases htwo : n < 0x800
  · have hfirst : 0xC0 + n / 64 = n / 64 % 32 + 192 := by omega
    rw [if_pos htwo, if_pos (Nat.le_of_lt_succ htwo), hfirst, Nat.add_comm 0x80]
  rw [if_neg htwo, if_neg (show ¬ n ≤ 2047 by omega)]
  by_cases hthree : n < 0x10000
  · have hfirst : 0xE0 + n / 4096 = n / 4096 % 16 + 224 := by omega
    rw [if_pos hthree, if_pos (Nat.le_of_lt_succ hthree), hfirst, Nat.add_comm 0x80, Nat.add_comm 0x80]
  · have hfirst : 0xF0 + n / 262144 = n / 262144 % 8 + 240 := by omega
    rw [if_neg hthree, if_neg (show ¬ n ≤ 65535 by omega), hfirst, Nat.add_comm 0x80, Nat.add_comm 0x80,
      Nat.add_comm 0x80]

/-- The encoding here is the one of the strings themselves. -/
theorem encode_toList (text : String) : encode text.toList = text.toByteArray.data.toList := by
  rw [← String.utf8Encode_toList, List.utf8Encode, List.data_toByteArray, encode, funext encodeChar_eq]

/-- Well-formed is what a text is written as. -/
theorem wellFormed_iff {bytes : Bytes} : WellFormed bytes ↔ ∃ cs, encode cs = bytes := by
  constructor
  · rintro ⟨pieces, rfl, characters⟩
    induction pieces with
    | nil => exact ⟨[], rfl⟩
    | cons piece pieces ih =>
      obtain ⟨c, hc⟩ := isCharacter_iff.1 (characters piece List.mem_cons_self)
      obtain ⟨cs, hcs⟩ := ih fun other hother => characters other (List.mem_cons_of_mem _ hother)
      refine ⟨c :: cs, ?_⟩
      rw [encode, List.flatMap_cons, hc, ← encode, hcs, List.flatten_cons]
  · rintro ⟨cs, rfl⟩
    refine ⟨cs.map encodeChar, (List.flatMap_def).symm, ?_⟩
    intro piece hpiece
    obtain ⟨c, -, rfl⟩ := List.mem_map.1 hpiece
    exact isCharacter_encodeChar c

end TokenClient.Text.Utf8
