import Mathlib.Data.List.Forall2
import Mathlib.Data.Nat.Digits.Defs
import Mathlib.Tactic.IntervalCases
import Mathlib.Tactic.Ring
import Mathlib.Tactic.SplitIfs
import TokenClient.Code.Literal
import TokenClient.Proofs.Text.Blank

/-!
# Hexadecimal literals

What a text has to be in order to write a code is set down apart from the reading of it (`Code.Spells`): white space at
the ends, `0x` or `0X`, and then, with underscores anywhere, a plus sign or none and digits of either case, of which any
number of zeros may come first. A text is read as a code just if it spells the code (`Code.ofLiteral?_eq_some_iff`).
The digits are counted without bound, so a literal of more than 64 bits is refused and never taken for another code.
-/

namespace TokenClient

namespace Text

variable {c : Char} {v n m : Nat} {cs digits : List Char}

/-! ## Digits -/

/-- A character is the digit of a number below sixteen, in either case. -/
def IsHexDigit (c : Char) (v : Nat) : Prop := v < 16 ∧ c.toLower = Nat.digitChar v

/-- Digits, at least one, write a number, the first one being the highest. -/
def WritesHex (digits : List Char) (n : Nat) : Prop :=
  digits ≠ [] ∧ ∃ values, List.Forall₂ IsHexDigit digits values ∧ Nat.ofDigits 16 values.reverse = n

/-- Lower-casing moves the capital letters of ASCII and nothing else. -/
private theorem toNat_toLower (c : Char) :
    c.toLower.toNat = if 0x41 ≤ c.toNat ∧ c.toNat ≤ 0x5A then c.toNat + 0x20 else c.toNat := by
  have hupper : c.val ≥ 'A'.val ∧ c.val ≤ 'Z'.val ↔ 0x41 ≤ c.toNat ∧ c.toNat ≤ 0x5A := by
    rw [ge_iff_le, UInt32.le_iff_toNat_le, UInt32.le_iff_toNat_le]
    rfl
  unfold Char.toLower
  by_cases hc : 0x41 ≤ c.toNat ∧ c.toNat ≤ 0x5A
  · have hoffset : ('a'.val - 'A'.val).toNat = 0x20 := rfl
    have hval : c.val.toNat = c.toNat := rfl
    rw [dif_pos (hupper.2 hc), if_pos hc, Char.toNat, UInt32.toNat_add, hoffset, hval]
    omega
  · rw [dif_neg fun h => hc (hupper.1 h), if_neg hc]

/-- The digit characters by their values. -/
private theorem toNat_digitChar (small : v < 16) : (Nat.digitChar v).toNat = if v < 10 then 0x30 + v else 0x57 + v := by
  interval_cases v <;> rfl

/-- A character has a value iff it is a hexadecimal digit. -/
theorem hexValue?_eq_some_iff : hexValue? c = some v ↔ IsHexDigit c v := by
  have hcode (small : v < 16) : c.toLower = Nat.digitChar v ↔
      (if 0x41 ≤ c.toNat ∧ c.toNat ≤ 0x5A then c.toNat + 0x20 else c.toNat) =
        if v < 10 then 0x30 + v else 0x57 + v := by
    rw [← Char.toNat_inj, toNat_toLower, toNat_digitChar small]
  rw [IsHexDigit, and_congr_right hcode]
  unfold hexValue?
  simp only [Bool.and_eq_true, decide_eq_true_eq]
  split_ifs <;> simp only [Option.some.injEq, false_iff] <;> omega

/-- The digits read so far stand before the ones still to come. -/
private theorem hexNumberFrom?_eq_some_iff :
    hexNumberFrom? m cs = some n ↔
      ∃ values, List.Forall₂ IsHexDigit cs values ∧ 16 ^ cs.length * m + Nat.ofDigits 16 values.reverse = n := by
  induction cs generalizing m with
  | nil => simp [hexNumberFrom?]
  | cons c cs ih =>
    have hvalue {v : Nat} {values : List Nat} (hvalues : List.Forall₂ IsHexDigit cs values) :
        16 ^ cs.length * (16 * m + v) + Nat.ofDigits 16 values.reverse =
          16 ^ (c :: cs).length * m + Nat.ofDigits 16 (v :: values).reverse := by
      rw [List.reverse_cons, Nat.ofDigits_append, Nat.ofDigits_singleton, List.length_reverse, ← hvalues.length_eq,
        List.length_cons]
      ring
    rw [hexNumberFrom?, Option.bind_eq_some_iff]
    simp only [hexValue?_eq_some_iff, ih]
    constructor
    · rintro ⟨v, hc, values, hvalues, rfl⟩
      exact ⟨v :: values, .cons hc hvalues, (hvalue hvalues).symm⟩
    · rintro ⟨_, hdigits, rfl⟩
      obtain ⟨v, values, hc, hvalues, rfl⟩ := List.forall₂_cons_left_iff.1 hdigits
      exact ⟨v, hc, values, hvalues, hvalue hvalues⟩

/-- Characters are read as a number iff they write it in hexadecimal and it fits a code. -/
theorem hexNumber?_eq_some_iff : hexNumber? digits = some n ↔ WritesHex digits n := by
  cases digits with
  | nil => simp [hexNumber?, WritesHex]
  | cons c cs =>
    rw [hexNumber?, hexNumberFrom?_eq_some_iff, WritesHex]
    simp

private theorem isBlank_of_isHexDigit (digit : IsHexDigit c v) : isBlank c = false := by
  have hvalue := hexValue?_eq_some_iff.2 digit
  unfold hexValue? at hvalue
  unfold isBlank
  simp only [Bool.and_eq_true, decide_eq_true_eq] at hvalue
  simp only [Bool.or_eq_false_iff, Bool.and_eq_false_iff, decide_eq_false_iff_not, beq_eq_false_iff_ne]
  split_ifs at hvalue <;> omega

/-- Each character of a written number is a digit. -/
private theorem WritesHex.isHexDigit (writes : WritesHex digits n) (mem : c ∈ digits) : ∃ v, IsHexDigit c v := by
  obtain ⟨-, values, hvalues, -⟩ := writes
  induction hvalues with
  | nil => cases mem
  | cons hc _ ih =>
    rcases List.mem_cons.1 mem with rfl | hmem
    · exact ⟨_, hc⟩
    · exact ih hmem

/-! ## What follows the mark -/

private theorem not_isHexDigit_plus (v : Nat) : ¬ IsHexDigit '+' v := by
  rw [← hexValue?_eq_some_iff]
  intro h
  cases h

/-- One leading plus is allowed and no more, since no digit is a plus. -/
private theorem hexNumber?_dropPlus_eq_some_iff :
    hexNumber? (dropPlus cs) = some n ↔ ∃ digits, (cs = digits ∨ cs = '+' :: digits) ∧ WritesHex digits n := by
  rw [hexNumber?_eq_some_iff]
  unfold dropPlus
  split
  next rest =>
    constructor
    · exact fun writes => ⟨rest, .inr rfl, writes⟩
    · rintro ⟨digits, rfl | heq, writes⟩
      · obtain ⟨v, hplus⟩ := writes.isHexDigit List.mem_cons_self
        exact absurd hplus (not_isHexDigit_plus v)
      · cases heq
        exact writes
  next hnone =>
    constructor
    · exact fun writes => ⟨cs, .inl rfl, writes⟩
    · rintro ⟨digits, rfl | rfl, writes⟩
      · exact writes
      · exact (hnone digits rfl).elim

/-- A literal starts with its prefix, and underscores in it do not count. -/
private theorem hexLiteral?_eq_some_iff :
    hexLiteral? cs = some digits ↔
      ∃ mark body, (mark = 'x' ∨ mark = 'X') ∧ cs = '0' :: mark :: body ∧ body.filter (· != '_') = digits := by
  unfold hexLiteral?
  split
  next body =>
    rw [Option.some.injEq]
    constructor
    · exact fun h => ⟨'x', body, .inl rfl, rfl, h⟩
    · rintro ⟨mark, body', -, heq, rfl⟩
      cases heq
      rfl
  next body =>
    rw [Option.some.injEq]
    constructor
    · exact fun h => ⟨'X', body, .inr rfl, rfl, h⟩
    · rintro ⟨mark, body', -, heq, rfl⟩
      cases heq
      rfl
  next hlower hupper =>
    refine iff_of_false (Option.some_ne_none digits).symm ?_
    rintro ⟨mark, body, rfl | rfl, rfl, -⟩
    · exact hlower body rfl
    · exact hupper body rfl

end Text

namespace Code

variable {text : String} {code : Code} {n : Nat}

/-- A text is a literal that writes a number: between white space it is a mark and what, without its underscores, is a
sign or none and digits. -/
inductive Spells (n : Nat) : List Char → Prop
  | literal {before after body digits : List Char} {mark : Char}
      (blank : ∀ c ∈ before ++ after, Text.isBlank c = true) (marked : mark = 'x' ∨ mark = 'X')
      (sign : body.filter (· != '_') = digits ∨ body.filter (· != '_') = '+' :: digits)
      (writes : Text.WritesHex digits n) : Spells n (before ++ '0' :: mark :: body ++ after)

/-- A text is a literal that writes a code. -/
def IsLiteral (text : String) : Prop := ∃ n < 2 ^ 64, Spells n text.toList

/-- There is no white space within a literal. -/
theorem isBlank_of_mem_body {body digits : List Char} {c : Char}
    (sign : body.filter (· != '_') = digits ∨ body.filter (· != '_') = '+' :: digits)
    (writes : Text.WritesHex digits n) (mem : c ∈ body) : Text.isBlank c = false := by
  by_cases hunderscore : c = '_'
  · rw [hunderscore]
    rfl
  have hkept : c ∈ body.filter (· != '_') := List.mem_filter.2 ⟨mem, by simpa using hunderscore⟩
  have hdigits : c ∈ digits → Text.isBlank c = false := by
    intro hmem
    obtain ⟨v, hdigit⟩ := writes.isHexDigit hmem
    exact Text.isBlank_of_isHexDigit hdigit
  rcases sign with hbody | hbody
  · exact hdigits (hbody ▸ hkept)
  · rw [hbody] at hkept
    rcases List.mem_cons.1 hkept with rfl | hmem
    · rfl
    · exact hdigits hmem

/-- A text is read as a code just if it is a literal that writes it. -/
theorem ofLiteral?_eq_some_iff : ofLiteral? text = some code ↔ Spells code.toNat text.toList := by
  rw [ofLiteral?, Option.bind_eq_some_iff]
  constructor
  · rintro ⟨written, hliteral, hcode⟩
    obtain ⟨mark, body, marked, htrim, rfl⟩ := Text.hexLiteral?_eq_some_iff.1 hliteral
    obtain ⟨n, hnumber, hfits⟩ := Option.bind_eq_some_iff.1 hcode
    obtain ⟨digits, sign, writes⟩ := Text.hexNumber?_dropPlus_eq_some_iff.1 hnumber
    obtain ⟨before, after, htext, blank⟩ := Text.exists_append_trim text.toList
    split at hfits
    next hlt =>
      cases hfits
      rw [← htext, htrim, UInt64.toNat_ofNat_of_lt' hlt]
      exact .literal blank marked sign writes
    next => cases hfits
  · intro spells
    generalize text.toList = cs at spells ⊢
    cases spells with
    | @literal before after body digits mark blank marked sign writes =>
      -- No character of a literal is blank, so trimming takes off just what surrounds it.
      have hsolid : ∀ c ∈ '0' :: mark :: body, Text.isBlank c = false := by
        intro c hc
        rcases List.mem_cons.1 hc with rfl | hc
        · rfl
        · rcases List.mem_cons.1 hc with rfl | hc
          · rcases marked with rfl | rfl <;> rfl
          · exact isBlank_of_mem_body sign writes hc
      rw [Text.trim_append_append blank (List.cons_ne_nil _ _) hsolid]
      refine ⟨_, Text.hexLiteral?_eq_some_iff.2 ⟨mark, body, marked, rfl, rfl⟩, ?_⟩
      rw [Text.hexNumber?_dropPlus_eq_some_iff.2 ⟨digits, sign, writes⟩, Option.bind_some,
        if_pos (show code.toNat < UInt64.size from code.toNat_lt), UInt64.ofNat_toNat]

example : ofLiteral? " 0X_+00fF " = some 0xFF ∧ ofLiteral? "0x+ 1" = none := by decide +kernel

/-- A text is read as a code iff it is a literal. -/
theorem exists_ofLiteral?_iff : (∃ code, ofLiteral? text = some code) ↔ IsLiteral text := by
  simp only [ofLiteral?_eq_some_iff]
  constructor
  · rintro ⟨code, spells⟩
    exact ⟨code.toNat, code.toNat_lt, spells⟩
  · rintro ⟨n, fits, spells⟩
    exact ⟨UInt64.ofNat n, by rwa [UInt64.toNat_ofNat_of_lt' fits]⟩

/-- Every other text is refused. -/
theorem ofLiteral?_eq_none_iff : ofLiteral? text = none ↔ ¬ IsLiteral text := by
  rw [← exists_ofLiteral?_iff, Option.eq_none_iff_forall_ne_some, not_exists]

end Code

end TokenClient
