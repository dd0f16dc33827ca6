import Mathlib.Tactic.IntervalCases
import TokenClient.Text.Hex

/-!
# Hexadecimal digits are read back

The digits of a number are read back as the number, with zeros in front of them or without
(`hexNumberFrom?_hexDigits`, `hexNumberFrom?_zeroPad`). So no two codes are shown with the same digits, be it in as
many as they need or in eight at least.
-/

namespace TokenClient.Text

private theorem hexValue?_hexDigit {n : Nat} (digit : n < 16) : hexValue? (hexDigit n) = some n := by
  interval_cases n <;> rfl

/-- Digits can be read in two parts. -/
private theorem hexNumberFrom?_append (n : Nat) (cs ds : List Char) :
    hexNumberFrom? n (cs ++ ds) = (hexNumberFrom? n cs).bind fun m => hexNumberFrom? m ds := by
  induction cs generalizing n with
  | nil => rfl
  | cons c cs ih =>
    rw [List.cons_append, hexNumberFrom?, hexNumberFrom?, Option.bind_assoc]
    simp only [ih]

/-- A number is read back from its digits. -/
theorem hexNumberFrom?_hexDigits (n : Nat) : hexNumberFrom? 0 (hexDigits hexDigit n) = some n := by
  fun_induction hexDigits hexDigit n with
  | case1 n digit =>
    rw [hexNumberFrom?, hexValue?_hexDigit digit, Option.bind_some, hexNumberFrom?, Nat.mul_zero, Nat.zero_add]
  | case2 n more ih =>
    have hlast : n % 16 < 16 := Nat.mod_lt n (by decide)
    rw [hexNumberFrom?_append, ih, Option.bind_some, hexNumberFrom?, hexValue?_hexDigit hlast, Option.bind_some,
      hexNumberFrom?, Nat.div_add_mod]

/-- Leading zeros do not change the number. -/
private theorem hexNumberFrom?_zeroPad (width : Nat) (cs : List Char) :
    hexNumberFrom? 0 (zeroPad width cs) = hexNumberFrom? 0 cs := by
  have hzeros (count : Nat) : hexNumberFrom? 0 (List.replicate count '0') = some 0 := by
    induction count with
    | zero => rfl
    | succ count ih => exact ih
  rw [zeroPad, hexNumberFrom?_append, hzeros, Option.bind_some]

private theorem hexNumberFrom?_hexCode (code : Code) : hexNumberFrom? 0 (hexCode code) = some code.toNat :=
  hexNumberFrom?_hexDigits _

private theorem hexNumberFrom?_hexCode8 (code : Code) : hexNumberFrom? 0 (hexCode8 code) = some code.toNat := by
  rw [hexCode8, hexNumberFrom?_zeroPad, hexNumberFrom?_hexCode]

/-- Codes whose digits are read back are told apart by these. -/
theorem injective_of_read {digits : Code → List Char}
    (read : ∀ code, hexNumberFrom? 0 (digits code) = some code.toNat) :
    Function.Injective digits := by
  intro code other same
  have hread := read code
  rw [same, read other] at hread
  exact (UInt64.toNat_inj.1 (Option.some.inj hread)).symm

/-- Two codes are never written alike. -/
theorem hexCode_injective : Function.Injective hexCode := injective_of_read hexNumberFrom?_hexCode

/-- Nor are they when padded to eight digits. -/
theorem hexCode8_injective : Function.Injective hexCode8 := injective_of_read hexNumberFrom?_hexCode8

end TokenClient.Text
