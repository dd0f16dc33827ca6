import Mathlib.Logic.Basic
import Mathlib.Tactic.SplitIfs
import TokenClient.Proofs.Text.Encoding

/-!
# Well-formed UTF-8

`Utf8.decode?` reads a byte string just if it is what some text is written as, and reads that text
(`Utf8.decode?_eq_some_iff`). That a written text is read back is `Utf8.decode?_encode`; here is the other
direction, that nothing else is read: the first byte tells how many bytes a character takes, and the bounds it
sets for the second one leave out the overlong forms, the surrogates and what lies past the last character, so
the number that `scan` puts together is a character and its own bytes are the ones that were taken.
-/

namespace TokenClient.Text.Utf8

/-- What the two bytes that open a character tell of it. The bounds of the second one leave out what is overlong, a
surrogate or past the last character. -/
theorem exists_of_lead {b second : Nat} {lead : Lead} (opens : lead? b = some lead) (low : lead.low ≤ second)
    (high : second ≤ lead.high) :
    ∃ m < 64, second = 0x80 + m ∧
      (lead.further = 0 ∧ b = 0xC0 + lead.bits ∧ 0x80 ≤ 64 * lead.bits + m ∧ 64 * lead.bits + m < 0x800 ∨
        lead.further = 1 ∧ b = 0xE0 + lead.bits ∧ 0x20 ≤ 64 * lead.bits + m ∧ 64 * lead.bits + m < 0x400 ∧
          (64 * lead.bits + m < 0x360 ∨ 0x37F < 64 * lead.bits + m) ∨
        lead.further = 2 ∧ b = 0xF0 + lead.bits ∧ 0x10 ≤ 64 * lead.bits + m ∧
          64 * lead.bits + m < 0x110) := by
  -- One case for each stretch of first bytes, in the order of `lead?`.
  unfold lead? at opens
  split_ifs at opens <;> obtain rfl := Option.some.inj opens <;> dsimp only at low high ⊢ <;>
    refine ⟨second - 0x80, by omega, by omega, ?_⟩
  · exact .inl ⟨rfl, by omega, by omega, by omega⟩
  · exact .inr (.inl ⟨rfl, by omega, by omega, by omega, by omega⟩)
  · exact .inr (.inl ⟨rfl, by omega, by omega, by omega, by omega⟩)
  · exact .inr (.inl ⟨rfl, by omega, by omega, by omega, by omega⟩)
  · exact .inr (.inr ⟨rfl, by omega, by omega, by omega⟩)
  · exact .inr (.inr ⟨rfl, by omega, by omega, by omega⟩)
  · exact .inr (.inr ⟨rfl, by omega, by omega, by omega⟩)

/-- A byte that continues a character carries six bits of it. -/
theorem exists_of_continuation {bits count n : Nat} {bytes rest : Bytes}
    (h : continuation bits (count + 1) bytes = (some n, rest)) :
    ∃ m < 64, ∃ tail, bytes = UInt8.ofNat (0x80 + m) :: tail ∧
      continuation (64 * bits + m) count tail = (some n, rest) := by
  cases bytes with
  | nil => cases h
  | cons b tail =>
    rw [continuation] at h
    split at h
    next hb =>
      simp only [Bool.and_eq_true, decide_eq_true_eq] at hb
      refine ⟨b.toNat - 0x80, by omega, tail, ?_, h⟩
      rw [Nat.add_sub_cancel' hb.1, UInt8.ofNat_toNat]
    next => cases h

/-- A scalar value is the number of its character. -/
theorem toNat_charOfNat {n : Nat} (scalar : n < 0xD800 ∨ 0xDFFF < n ∧ n < 0x110000) :
    (Char.ofNat n).toNat = n := by
  rw [Char.ofNat, dif_pos scalar]
  rfl

/-- What is read of several bytes: the first two open a character, the others continue it. -/
theorem exists_of_scan {first : UInt8} {bytes rest : Bytes} {n : Nat} (several : 0x80 ≤ first.toNat)
    (h : scan first bytes = (some n, rest)) :
    ∃ lead second tail, lead? first.toNat = some lead ∧ bytes = second :: tail ∧
      lead.low ≤ second.toNat ∧ second.toNat ≤ lead.high ∧
        continuation (64 * lead.bits + (second.toNat - 0x80)) lead.further tail = (some n, rest) := by
  unfold scan at h
  rw [if_neg (by omega)] at h
  split at h
  next => cases h
  next => cases h
  next _ _ lead second tail opens =>
    split at h
    next hsecond =>
      simp only [Bool.and_eq_true, decide_eq_true_eq] at hsecond
      exact ⟨lead, second, tail, opens, rfl, hsecond.1, hsecond.2, h⟩
    next => cases h

/-- What is taken off the front is the bytes of a character. -/
theorem eq_encodeChar_of_scan {first : UInt8} {bytes rest : Bytes} {n : Nat}
    (h : scan first bytes = (some n, rest)) : first :: bytes = encodeChar (Char.ofNat n) ++ rest := by
  by_cases hone : first.toNat < 0x80
  · unfold scan at h
    rw [if_pos hone] at h
    cases h
    rw [encodeChar, toNat_charOfNat (by omega), if_pos hone, UInt8.ofNat_toNat]
    rfl
  obtain ⟨lead, second, tail, opens, rfl, low, high, hrest⟩ := exists_of_scan (by omega) h
  obtain ⟨m, hm, hsecond, bounds⟩ := exists_of_lead opens low high
  rw [← UInt8.ofNat_toNat (x := first), ← UInt8.ofNat_toNat (x := second), hsecond]
  rw [hsecond, Nat.add_sub_cancel_left] at hrest
  -- One case for each length; the bits are taken apart again by division, from the lowest six up.
  obtain ⟨hfurther, hfirst, hleast, hmost⟩ | ⟨hfurther, hfirst, hleast, hmost, hscalar⟩ |
    ⟨hfurther, hfirst, hleast, hmost⟩ := bounds
  · rw [hfurther, continuation_zero] at hrest
    cases hrest
    obtain ⟨hhigh, hlow⟩ : (64 * lead.bits + m) / 64 = lead.bits ∧ (64 * lead.bits + m) % 64 = m := by omega
    rw [encodeChar, toNat_charOfNat (by omega), if_neg (by omega), if_pos hmost, hhigh, hlow, hfirst]
    rfl
  · rw [hfurther] at hrest
    obtain ⟨m', hm', tail', rfl, hlast⟩ := exists_of_continuation hrest
    rw [continuation_zero] at hlast
    cases hlast
    generalize hn : 64 * (64 * lead.bits + m) + m' = n
    obtain ⟨hhigh, hmid, hlow⟩ : n / 4096 = lead.bits ∧ n / 64 % 64 = m ∧ n % 64 = m' := by omega
    rw [encodeChar, toNat_charOfNat (by omega), if_neg (by omega), if_neg (by omega), if_pos (by omega), hhigh,
      hmid, hlow, hfirst]
    rfl
  · rw [hfurther] at hrest
    obtain ⟨m', hm', tail', rfl, hnext⟩ := exists_of_continuation hrest
    obtain ⟨m'', hm'', tail'', rfl, hlast⟩ := exists_of_continuation hnext
    rw [continuation_zero] at hlast
    cases hlast
    generalize hn : 64 * (64 * (64 * lead.bits + m) + m') + m'' = n
    obtain ⟨hhigh, hmid, hmid', hlow⟩ :
        n / 262144 = lead.bits ∧ n / 4096 % 64 = m ∧ n / 64 % 64 = m' ∧ n % 64 = m'' := by omega
    rw [encodeChar, toNat_charOfNat (by omega), if_neg (by omega), if_neg (by omega), if_neg (by omega), hhigh,
      hmid, hmid', hlow, hfirst]
    rfl

/-- A byte string that consists of characters is what they are written as. -/
theorem encode_of_decode? {bytes : Bytes} {cs : List Char} (h : decode? bytes = some cs) : encode cs = bytes := by
  fun_induction decode? bytes generalizing cs with
  | case1 =>
    cases h
    rfl
  | case2 b bytes ih =>
    obtain ⟨n, hscan, hrest⟩ := Option.bind_eq_some_iff.1 h
    obtain ⟨later, hlater, rfl⟩ := Option.map_eq_some_iff.1 hrest
    rw [encode, List.flatMap_cons, ← encode, ih hlater]
    exact (eq_encodeChar_of_scan (Prod.ext hscan rfl)).symm

/-- Well-formed is what a text is written as. -/
theorem decode?_eq_some_iff {bytes : Bytes} {cs : List Char} : decode? bytes = some cs ↔ encode cs = bytes := by
  constructor
  · exact encode_of_decode?
  · rintro rfl
    exact decode?_encode cs

end TokenClient.Text.Utf8
