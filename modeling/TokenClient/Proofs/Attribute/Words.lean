import Mathlib.Data.List.Forall2
import Mathlib.Data.Nat.Digits.Defs
import TokenClient.Proofs.Attribute.Failure
import TokenClient.Proofs.Attribute.Payload

/-!
# Words and the bytes that write them

Bytes are digits to the base 256, the first one being the lowest (`Word.valueOf`), and a word is read from one to eight
of them as the number that they write. Zeros at the end add nothing to it, so the word is written as the same bytes
with zeros up to the eighth (`Word.toBytes_eq_append_iff`). Arrays leave no room for short words: their bytes are cut
into pieces of eight (`Word.WritesArray`), and an array is read from no bytes but its own
(`Word.arrayOfBytes_eq_ok_iff`).
-/

namespace TokenClient

/-- A reading that knows one error only fails with it, and exactly where nothing is read. -/
theorem eq_error_iff_of_only {α : Type} {result : Except Error α} {failure : Error}
    (only : ∀ e, result = .error e → e = failure) (e : Error) :
    result = .error e ↔ e = failure ∧ ¬ ∃ a, result = .ok a := by
  constructor
  · intro h
    refine ⟨only e h, ?_⟩
    rintro ⟨a, hok⟩
    rw [h] at hok
    cases hok
  · rintro ⟨rfl, hnone⟩
    cases hresult : result with
    | error e' => rw [only e' hresult]
    | ok a => exact absurd ⟨a, hresult⟩ hnone

namespace Word

variable {bytes : Bytes} {word : Code} {ws : List Code}

/-! ## Digits -/

/-- The number to the base 256 whose digits these are, the first one being the lowest. -/
def valueOf (bytes : Bytes) : Nat := Nat.ofDigits 256 (bytes.map UInt8.toNat)

private theorem number_eq_valueOf (bytes : Bytes) : number bytes = valueOf bytes := by
  induction bytes with
  | nil => rfl
  | cons b bytes ih => rw [number, ih, valueOf, valueOf, List.map_cons, Nat.ofDigits_cons]

/-- Digits are those of the number that they write, and further ones are zero. -/
theorem digits_number (bytes : Bytes) (further : Nat) :
    digits (bytes.length + further) (number bytes) = bytes ++ List.replicate further 0 := by
  induction bytes with
  | nil =>
    rw [number, List.length_nil, Nat.zero_add, List.nil_append]
    induction further with
    | zero => rfl
    | succ further ih =>
      rw [digits, List.replicate_succ, Nat.zero_div, ih]
      rfl
  | cons b bytes ih =>
    have hb : b.toNat < 256 := b.toNat_lt
    have hlowest : (b.toNat + 256 * number bytes) % 256 = b.toNat := by omega
    have hothers : (b.toNat + 256 * number bytes) / 256 = number bytes := by omega
    rw [number, List.length_cons, Nat.succ_add, digits, hlowest, hothers, ih, UInt8.ofNat_toNat, List.cons_append]

private theorem number_lt (bytes : Bytes) : number bytes < 256 ^ bytes.length := by
  have hdigits := digits_number bytes 0
  rw [Nat.add_zero, List.replicate_zero, List.append_nil] at hdigits
  calc number bytes = number (digits bytes.length (number bytes)) := by rw [hdigits]
    _ = number bytes % 256 ^ bytes.length := number_digits _ _
    _ < 256 ^ bytes.length := Nat.mod_lt _ (Nat.pow_pos (by decide))

/-- What eight bytes write fits a word. -/
theorem toNat_ofNat_number (short : bytes.length ≤ size) : (UInt64.ofNat (number bytes)).toNat = number bytes := by
  have hsize : 256 ^ bytes.length ≤ 256 ^ size := Nat.pow_le_pow_right (by decide) short
  exact UInt64.toNat_ofNat_of_lt' (Nat.lt_of_lt_of_le (number_lt bytes) hsize)

/-- A word is written as the bytes that write it, with zeros up to the eighth. -/
theorem toBytes_eq_append_iff :
    toBytes word = bytes ++ List.replicate (8 - bytes.length) 0 ↔ bytes.length ≤ 8 ∧ valueOf bytes = word.toNat := by
  rw [← number_eq_valueOf]
  constructor
  · intro h
    have hlength := congrArg List.length h
    rw [length_toBytes, List.length_append, List.length_replicate, size] at hlength
    have hshort : bytes.length ≤ 8 := by omega
    refine ⟨hshort, ?_⟩
    rw [← number_toBytes, h, ← digits_number, number_digits, Nat.add_sub_cancel' hshort]
    exact (Nat.mod_eq_of_lt (Nat.lt_of_lt_of_le (number_lt bytes) (Nat.pow_le_pow_right (by decide) hshort))).symm
  · rintro ⟨hshort, hvalue⟩
    rw [toBytes, ← hvalue, size, ← digits_number, Nat.add_sub_cancel' hshort]

/-- A word is written in its eight bytes by places. -/
private theorem toBytes_eq_iff : toBytes word = bytes ↔ bytes.length = 8 ∧ valueOf bytes = word.toNat := by
  constructor
  · rintro rfl
    exact ⟨length_toBytes word, by rw [← number_eq_valueOf, number_toBytes]⟩
  · rintro ⟨hlength, hvalue⟩
    have hpadded := toBytes_eq_append_iff.2 ⟨Nat.le_of_eq hlength, hvalue⟩
    rwa [hlength, Nat.sub_self, List.replicate_zero, List.append_nil] at hpadded

/-! ## One word -/

/-- Bytes are read as a word iff there are one to eight of them, and then by places. -/
theorem ofBytes_eq_ok_iff :
    ofBytes bytes = .ok word ↔ 1 ≤ bytes.length ∧ bytes.length ≤ 8 ∧ valueOf bytes = word.toNat := by
  rw [ofBytes, ← number_eq_valueOf, size]
  split
  next hlength =>
    refine iff_of_false ?_ ?_
    · intro h
      cases h
    · rintro ⟨hfilled, hshort, -⟩
      omega
  next hlength =>
    have hshort : bytes.length ≤ size := Nat.le_of_not_lt fun h => hlength (.inr h)
    rw [Except.ok.injEq, ← UInt64.toNat_inj, toNat_ofNat_number hshort]
    exact ⟨fun h => ⟨by omega, hshort, h⟩, fun h => h.2.2⟩

/-- One to eight bytes, and no others, are read as a word. -/
theorem exists_ofBytes_iff : (∃ word, ofBytes bytes = .ok word) ↔ 1 ≤ bytes.length ∧ bytes.length ≤ 8 := by
  constructor
  · rintro ⟨word, hword⟩
    obtain ⟨hfilled, hshort, -⟩ := ofBytes_eq_ok_iff.1 hword
    exact ⟨hfilled, hshort⟩
  · rintro ⟨hfilled, hshort⟩
    refine ⟨UInt64.ofNat (number bytes), ofBytes_eq_ok_iff.2 ⟨hfilled, hshort, ?_⟩⟩
    rw [toNat_ofNat_number hshort, number_eq_valueOf]

/-! ## Arrays -/

/-- A byte string writes an array of words: it is cut into one piece for each of them, eight bytes that write the
word. -/
def WritesArray (bytes : Bytes) (ws : List Code) : Prop :=
  ∃ pieces : List Bytes, pieces.flatten = bytes ∧
    List.Forall₂ (fun piece word => piece.length = 8 ∧ valueOf piece = word.toNat) pieces ws

/-- Pieces that write words are those that the words are written as. -/
theorem writesPieces_iff {pieces : List Bytes} :
    List.Forall₂ (fun piece word => piece.length = 8 ∧ valueOf piece = word.toNat) pieces ws ↔
      pieces = ws.map toBytes := by
  have hpiece (piece : Bytes) (word : Code) :
      piece.length = 8 ∧ valueOf piece = word.toNat ↔ piece = toBytes word := by
    rw [← toBytes_eq_iff, eq_comm]
  simp only [hpiece]
  rw [← List.forall₂_map_right_iff, List.forall₂_eq_eq_eq]

/-- Words are written one after the other. -/
private theorem writesArray_iff : WritesArray bytes ws ↔ arrayToBytes ws = bytes := by
  rw [arrayToBytes, List.flatMap_def]
  constructor
  · rintro ⟨pieces, rfl, writes⟩
    rw [writesPieces_iff.1 writes]
  · rintro rfl
    exact ⟨_, rfl, writesPieces_iff.2 rfl⟩

/-- Whole words are written as the bytes that they were read from. -/
theorem arrayToBytes_words {count : Nat} (whole : bytes.length = size * count) :
    arrayToBytes (words count bytes) = bytes := by
  induction count generalizing bytes with
  | zero =>
    rw [List.length_eq_zero_iff.1 whole]
    rfl
  | succ count ih =>
    have hfirst : (bytes.take size).length = size := by
      rw [List.length_take, whole, Nat.mul_succ]
      omega
    have hrest : (bytes.drop size).length = size * count := by
      rw [List.length_drop, whole, Nat.mul_succ, Nat.add_sub_cancel]
    have hword : toBytes (UInt64.ofNat (number (bytes.take size))) = bytes.take size := by
      refine toBytes_eq_iff.2 ⟨hfirst, ?_⟩
      rw [toNat_ofNat_number (Nat.le_of_eq hfirst), number_eq_valueOf]
    rw [words, arrayToBytes, List.flatMap_cons, hword, ← arrayToBytes, ih hrest, List.take_append_drop]

/-- Bytes are read as the list of words that is written so. -/
theorem arrayOfBytes_eq_ok_iff : arrayOfBytes bytes = .ok ws ↔ arrayToBytes ws = bytes := by
  constructor
  · intro h
    unfold arrayOfBytes at h
    split at h
    next hwhole =>
      cases h
      exact arrayToBytes_words (Nat.mul_div_cancel' (Nat.dvd_of_mod_eq_zero hwhole)).symm
    next => cases h
  · rintro rfl
    exact arrayOfBytes_arrayToBytes ws

/-- Bytes are read as a list of words iff they fill whole words. -/
theorem exists_arrayOfBytes_iff : (∃ ws, arrayOfBytes bytes = .ok ws) ↔ 8 ∣ bytes.length := by
  rw [arrayOfBytes, size, Nat.dvd_iff_mod_eq_zero]
  split
  next hwhole => exact iff_of_true ⟨_, rfl⟩ hwhole
  next hpartial =>
    refine iff_of_false ?_ hpartial
    rintro ⟨ws, h⟩
    cases h

/-- One to eight bytes are read as the number that they write, the lowest byte first, and the word is written as these
bytes with zeros up to the eighth. Bytes are read as an array of words just if they are whole words, each piece as the
word that it writes, and the array is written as the same bytes. All other bytes are an invalid value, and each word
and each array is read back from its own. -/
theorem words_as_bytes :
    (∀ bytes word, ofBytes bytes = .ok word ↔
      1 ≤ bytes.length ∧ bytes.length ≤ 8 ∧ valueOf bytes = word.toNat) ∧
    (∀ bytes, (∃ word, ofBytes bytes = .ok word) ↔ 1 ≤ bytes.length ∧ bytes.length ≤ 8) ∧
    (∀ bytes word, ofBytes bytes = .ok word ↔
      1 ≤ bytes.length ∧ toBytes word = bytes ++ List.replicate (8 - bytes.length) 0) ∧
    (∀ bytes e, ofBytes bytes = .error e ↔
      e = .token Rv.attributeValueInvalid ∧ ¬ (1 ≤ bytes.length ∧ bytes.length ≤ 8)) ∧
    (∀ word, ofBytes (toBytes word) = .ok word) ∧
    (∀ bytes ws, arrayOfBytes bytes = .ok ws ↔ WritesArray bytes ws) ∧
    (∀ bytes, (∃ ws, arrayOfBytes bytes = .ok ws) ↔ 8 ∣ bytes.length) ∧
    (∀ bytes ws, arrayOfBytes bytes = .ok ws ↔ arrayToBytes ws = bytes) ∧
    (∀ bytes e, arrayOfBytes bytes = .error e ↔ e = .token Rv.attributeValueInvalid ∧ ¬ 8 ∣ bytes.length) ∧
    ∀ ws, arrayOfBytes (arrayToBytes ws) = .ok ws := by
  refine ⟨fun bytes word => ofBytes_eq_ok_iff, fun bytes => exists_ofBytes_iff, fun bytes word => ?_,
    fun bytes e => ?_, ofBytes_toBytes, fun bytes ws => ?_, fun bytes => exists_arrayOfBytes_iff,
    fun bytes ws => arrayOfBytes_eq_ok_iff, fun bytes e => ?_, arrayOfBytes_arrayToBytes⟩
  · rw [ofBytes_eq_ok_iff, toBytes_eq_append_iff]
  · rw [eq_error_iff_of_only (fun e => ofBytes_error), exists_ofBytes_iff]
  · rw [arrayOfBytes_eq_ok_iff, writesArray_iff]
  · rw [eq_error_iff_of_only (fun e => arrayOfBytes_error), exists_arrayOfBytes_iff]

end Word

end TokenClient
