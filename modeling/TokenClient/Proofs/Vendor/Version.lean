import Mathlib.Data.Nat.Digits.Defs
import Mathlib.Data.Prod.Lex
import Mathlib.Tactic.Ring
import TokenClient.Proofs.Attribute.Failure
import TokenClient.Version

/-!
# Versions and ranges in writing

What a text writes is set down apart from the reading of it: a number (`Version.WritesPart`), a version
(`Version.Writes`), a version or a range of them (`Version.Range.Writes`). A selector is read exactly if it writes
something, and as what it writes (`Version.Range.parse_eq_ok_iff`). Which versions it takes in is said by the order of
pairs, the major part first (`Version.Range.Includes`).
-/

namespace TokenClient.Version

variable {cs before after : List Char} {separator : Char} {n : Nat} {part : UInt8} {version : Version}

/-! ## Numbers -/

/-- The number that decimal digits write. -/
def decimalValue (digits : List Char) : Nat := Nat.ofDigits 10 (digits.reverse.map fun c => c.toNat - 0x30)

/-- Decimal digits, at least one and with a plus sign allowed in front, write a number. -/
def WritesPart (cs : List Char) (part : UInt8) : Prop :=
  ∃ digits, (cs = digits ∨ cs = '+' :: digits) ∧ digits ≠ [] ∧ (∀ c ∈ digits, c.isDigit = true) ∧
    decimalValue digits = part.toNat

private theorem decimalValue_cons (c : Char) (cs : List Char) :
    decimalValue (c :: cs) = 10 ^ cs.length * (c.toNat - 0x30) + decimalValue cs := by
  rw [decimalValue, List.reverse_cons, List.map_append, Nat.ofDigits_append, List.length_map, List.length_reverse,
    List.map_singleton, Nat.ofDigits_singleton, Nat.add_comm, decimalValue]

/-- The digits read so far stand before the ones still to come. -/
private theorem decimalFrom?_eq_some_iff {m : Nat} :
    decimalFrom? n cs = some m ↔
      (∀ c ∈ cs, c.isDigit = true) ∧ 10 ^ cs.length * n + decimalValue cs = m := by
  induction cs generalizing n with
  | nil => simp [decimalFrom?, decimalValue]
  | cons c cs ih =>
    rw [decimalFrom?, List.forall_mem_cons]
    by_cases hc : c.isDigit = true
    · have hvalue : 10 ^ cs.length * (10 * n + (c.toNat - 0x30)) + decimalValue cs =
          10 ^ (c :: cs).length * n + decimalValue (c :: cs) := by
        rw [decimalValue_cons, List.length_cons]
        ring
      rw [if_pos hc, ih, hvalue]
      simp [hc]
    · rw [if_neg hc]
      simp [hc]

private theorem readDigits_eq_some_iff {digits : List Char} :
    (if digits.isEmpty then none
      else (decimalFrom? 0 digits).bind fun n => if n < 256 then some (UInt8.ofNat n) else none) = some part ↔
    digits ≠ [] ∧ (∀ c ∈ digits, c.isDigit = true) ∧ decimalValue digits = part.toNat := by
  have hlt : part.toNat < 256 := part.toNat_lt
  by_cases hempty : digits = []
  · simp [hempty]
  · rw [if_neg (by simpa using hempty), Option.bind_eq_some_iff]
    simp only [decimalFrom?_eq_some_iff, Nat.mul_zero, Nat.zero_add]
    constructor
    · rintro ⟨n, ⟨hdigits, rfl⟩, hn⟩
      split at hn
      next hsmall =>
        cases hn
        exact ⟨hempty, hdigits, (UInt8.toNat_ofNat_of_lt' hsmall).symm⟩
      next => cases hn
    · rintro ⟨-, hdigits, hvalue⟩
      refine ⟨_, ⟨hdigits, rfl⟩, ?_⟩
      rw [hvalue, if_pos hlt, UInt8.ofNat_toNat]

/-- A part of a version is read iff decimal digits write it and it fits a byte. -/
theorem part?_eq_some_iff : part? cs = some part ↔ WritesPart cs part := by
  have hplus : ¬ '+'.isDigit = true := by decide
  rw [part?.eq_def]
  dsimp only
  rw [readDigits_eq_some_iff]
  split
  next rest =>
    constructor
    · exact fun h => ⟨rest, .inr rfl, h⟩
    · rintro ⟨digits, rfl | heq, h⟩
      · exact absurd (h.2.1 _ List.mem_cons_self) hplus
      · cases heq
        exact h
  next hnone =>
    constructor
    · exact fun h => ⟨cs, .inl rfl, h⟩
    · rintro ⟨digits, rfl | rfl, h⟩
      · exact h
      · exact (hnone digits rfl).elim

/-! ## Versions -/

/-- A text is split at the first separator. -/
theorem splitOnce_eq_some_iff :
    splitOnce separator cs = some (before, after) ↔ cs = before ++ separator :: after ∧ separator ∉ before := by
  induction cs generalizing before with
  | nil => simp [splitOnce]
  | cons c cs ih =>
    rw [splitOnce]
    by_cases hc : c = separator
    · rw [if_pos hc]
      cases before with
      | nil => simp [hc]
      | cons d before =>
        have hnot : ¬ (c :: cs = d :: before ++ separator :: after ∧ separator ∉ d :: before) := by
          rintro ⟨hcs, hbefore⟩
          cases hcs
          exact hbefore (hc ▸ List.mem_cons_self)
        exact iff_of_false (by simp) hnot
    · rw [if_neg hc, Option.map_eq_some_iff]
      cases before with
      | nil => simp [hc]
      | cons d before =>
        rw [List.cons_append, List.cons.injEq, List.mem_cons, not_or]
        constructor
        · rintro ⟨parts, hparts, heq⟩
          cases heq
          obtain ⟨hcs, hbefore⟩ := ih.1 hparts
          exact ⟨⟨rfl, hcs⟩, Ne.symm hc, hbefore⟩
        · rintro ⟨⟨rfl, hcs⟩, -, hbefore⟩
          exact ⟨_, ih.2 ⟨hcs, hbefore⟩, rfl⟩

/-- A text is not cut iff it does not have the separator. -/
private theorem splitOnce_eq_none_iff : splitOnce separator cs = none ↔ separator ∉ cs := by
  induction cs with
  | nil => simp [splitOnce]
  | cons c cs ih =>
    rw [splitOnce, List.mem_cons, not_or]
    by_cases hc : c = separator
    · rw [if_pos hc]
      simp [hc]
    · rw [if_neg hc, Option.map_eq_none_iff, ih]
      simp [Ne.symm hc]

/-- A text is split in one way only. -/
theorem exists_split_iff {P : List Char → List Char → Prop} :
    (∃ before after, cs = before ++ separator :: after ∧ separator ∉ before ∧ P before after) ↔
      ∃ parts, splitOnce separator cs = some parts ∧ P parts.1 parts.2 := by
  constructor
  · rintro ⟨before, after, heq, hbefore, h⟩
    exact ⟨(before, after), splitOnce_eq_some_iff.2 ⟨heq, hbefore⟩, h⟩
  · rintro ⟨⟨before, after⟩, hsplit, h⟩
    obtain ⟨heq, hbefore⟩ := splitOnce_eq_some_iff.1 hsplit
    exact ⟨before, after, heq, hbefore, h⟩

/-- A text, white space at its ends aside, writes a version: the two parts with a point between them, or the major
part alone if the minor one is zero. -/
def Writes (cs : List Char) (version : Version) : Prop :=
  (∃ major minor, Text.trim cs = major ++ '.' :: minor ∧ '.' ∉ major ∧ WritesPart major version.major ∧
      WritesPart minor version.minor) ∨
    '.' ∉ Text.trim cs ∧ WritesPart (Text.trim cs) version.major ∧ version.minor = 0

private theorem part?_zero : part? ['0'] = some 0 := by decide

/-- A version is read from both of its parts. -/
theorem readParts_eq_ok_iff {major minor : List Char} {e : Error} :
    (match part? major, part? minor with
      | some major, some minor => Except.ok (⟨major, minor⟩ : Version)
      | _, _ => .error e) = .ok version ↔
    WritesPart major version.major ∧ WritesPart minor version.minor := by
  obtain ⟨a, b⟩ := version
  rw [← part?_eq_some_iff, ← part?_eq_some_iff]
  cases part? major <;> cases part? minor <;> simp

/-- A text is read as the version it writes. -/
theorem parse_eq_ok_iff : parse cs = .ok version ↔ Writes cs version := by
  have hzero : WritesPart ['0'] version.minor ↔ version.minor = 0 := by
    rw [← part?_eq_some_iff, part?_zero, Option.some.injEq, eq_comm]
  rw [parse, Writes, exists_split_iff, ← splitOnce_eq_none_iff]
  cases splitOnce '.' (Text.trim cs) with
  | none =>
    rw [Option.getD_none]
    refine readParts_eq_ok_iff.trans ?_
    simp [hzero]
  | some parts =>
    rw [Option.getD_some]
    refine readParts_eq_ok_iff.trans ?_
    simp

namespace Range

variable {selector : String} {range : Range}

/-- A selector writes a single version, or the two ends of a range with a dash between them. -/
def Writes (selector : String) : Range → Prop
  | exactly version => '-' ∉ selector.toList ∧ Version.Writes selector.toList version
  | between low high =>
    ∃ first second, selector.toList = first ++ '-' :: second ∧ '-' ∉ first ∧ Version.Writes first low ∧
      Version.Writes second high

/-- A selector is read as what it writes. -/
theorem parse_eq_ok_iff : parse selector = .ok range ↔ range.Writes selector := by
  rw [parse]
  cases hsplit : splitOnce '-' selector.toList with
  | none =>
    have hnone := splitOnce_eq_none_iff.1 hsplit
    simp only [map_ok_iff, Version.parse_eq_ok_iff]
    cases range with
    | exactly version => simp [Writes, hnone]
    | between low high => simp [Writes, exists_split_iff, hsplit]
  | some ends =>
    have hdash : '-' ∈ selector.toList := by
      rw [← not_not (a := '-' ∈ _), ← splitOnce_eq_none_iff, hsplit]
      exact Option.some_ne_none _
    simp only [bind_ok_iff, Version.parse_eq_ok_iff]
    cases range with
    | exactly version => simp [Writes, hdash, pure, Except.pure]
    | between low high => simp [Writes, exists_split_iff, hsplit, pure, Except.pure]

/-- Which versions a range takes in: in the order of pairs both ends belong to it. -/
def Includes : Range → Version → Prop
  | exactly version, v => v = version
  | between low high, v =>
    toLex (low.major, low.minor) ≤ toLex (v.major, v.minor) ∧ toLex (v.major, v.minor) ≤ toLex (high.major, high.minor)

/-- A range contains a version iff the version lies within its bounds. -/
theorem contains_iff : range.contains version = true ↔ range.Includes version := by
  have hle (v w : Version) : v.le w = true ↔ toLex (v.major, v.minor) ≤ toLex (w.major, w.minor) := by
    rw [Version.le, Prod.Lex.toLex_le_toLex]
    simp
  cases range with
  | exactly w => rw [contains, Includes, beq_iff_eq]
  | between low high => rw [contains, Includes, Bool.and_eq_true, hle, hle]

end Range

end TokenClient.Version
