import TokenClient.Code

/-!
# Hexadecimal texts

Numbers to the base sixteen: the upper-case digits in the names of codes, the lower-case ones in which
byte strings and leftover flags are shown, and the digits of either case that are read back.
-/

namespace TokenClient.Text

/-- The upper-case digit of a number below sixteen. -/
def hexDigit (n : Nat) : Char :=
  if n < 10 then Char.ofNat (0x30 + n) else Char.ofNat (0x41 + (n - 10))

/-- The lower-case digit of a number below sixteen. -/
def hexDigitLower (n : Nat) : Char :=
  if n < 10 then Char.ofNat (0x30 + n) else Char.ofNat (0x61 + (n - 10))

/-- The digits of a number to the base sixteen, the first one not zero unless it stands alone. -/
def hexDigits (digit : Nat → Char) (n : Nat) : List Char :=
  if n < 16 then [digit n] else hexDigits digit (n / 16) ++ [digit (n % 16)]
termination_by n
decreasing_by omega

/-- A text brought to at least `width` characters by zeros in front. -/
def zeroPad (width : Nat) (cs : List Char) : List Char :=
  List.replicate (width - cs.length) '0' ++ cs

/-- A code in upper-case digits. -/
def hexCode (code : Code) : List Char := hexDigits hexDigit code.toNat

/-- A code in at least eight upper-case digits. -/
def hexCode8 (code : Code) : List Char := zeroPad 8 (hexCode code)

/-- A code in lower-case digits. -/
def hexCodeLower (code : Code) : List Char := hexDigits hexDigitLower code.toNat

/-- A byte string as two lower-case digits a byte. -/
def hexBytes (bytes : Bytes) : List Char :=
  bytes.flatMap fun b => [hexDigitLower (b.toNat / 16), hexDigitLower (b.toNat % 16)]

/-- The value of a digit of either case. -/
def hexValue? (c : Char) : Option Nat :=
  let n := c.toNat
  if 0x30 ≤ n && n ≤ 0x39 then some (n - 0x30)
  else if 0x41 ≤ n && n ≤ 0x46 then some (n - 0x41 + 10)
  else if 0x61 ≤ n && n ≤ 0x66 then some (n - 0x61 + 10)
  else none

/-- The number that a list of digits continues from `n`, if all of them are digits. -/
def hexNumberFrom? (n : Nat) : List Char → Option Nat
  | [] => some n
  | c :: cs => (hexValue? c).bind fun v => hexNumberFrom? (16 * n + v) cs

/-- The number that at least one digit writes. -/
def hexNumber? : List Char → Option Nat
  | [] => none
  | c :: cs => hexNumberFrom? 0 (c :: cs)

/-- A text without the plus sign that may open a number. -/
def dropPlus : List Char → List Char
  | '+' :: cs => cs
  | cs => cs

/-- The digits of a hexadecimal literal: what follows its `0x` or `0X`, underscores left out. -/
def hexLiteral? : List Char → Option (List Char)
  | '0' :: 'x' :: cs => some (cs.filter (· != '_'))
  | '0' :: 'X' :: cs => some (cs.filter (· != '_'))
  | _ => none

end TokenClient.Text
