import TokenClient.Text.Hex
import TokenClient.Toml.Scan

/-!
# Numbers in TOML

Which texts are numbers. An integer has to fit into 64 bits with a sign. A decimal fraction or a number
with an exponent must not be so large that the nearest double is infinite, unless it is negative.
-/

namespace TokenClient.Toml.Number

/-- The least number that rounds to infinity: halfway from the greatest double to the next power. -/
def overflowBound : Nat := Nat.pow 2 1024 - Nat.pow 2 970

/-- Whether `m` times ten to the power `e` rounds to infinity. Far from the bound the number of digits
decides. -/
def overflows (m : Nat) (e : Int) : Bool :=
  let digits : Int := (Nat.toDigits 10 m).length
  if m = 0 then false
  else if digits + e > 310 then true
  else if digits + e < 300 then false
  else if 0 ≤ e then overflowBound ≤ m * Nat.pow 10 e.toNat
  else overflowBound * Nat.pow 10 (-e).toNat ≤ m

/-- A sign, if there is one; whether it is a minus. -/
def sign : Scan (Option Bool) := do
  match ← Scan.peek with
  | some '+' =>
    let _ ← Scan.next
    return some false
  | some '-' =>
    let _ ← Scan.next
    return some true
  | _ => return none

/-- The digits of a decimal integer: a zero alone, or digits that do not start with one. -/
def wholeDigits : Scan (List Char) := do
  if (← Scan.peek) = some '0' then
    let _ ← Scan.next
    return ['0']
  else Scan.grouped Char.isDigit

/-- The exponent, if there is one. -/
def exponent : Scan (Option Int) := do
  match ← Scan.peek with
  | some 'e' | some 'E' =>
    let _ ← Scan.next
    let negative ← sign
    let digits ← Scan.grouped Char.isDigit
    let n : Int := Scan.decimal digits
    return some (if negative = some true then -n else n)
  | _ => return none

/-- A decimal number, its sign taken before. -/
def decimalNumber (negative : Bool) : Scan Unit := do
  let whole ← wholeDigits
  let fraction ←
    if (← Scan.peek) = some '.' then do
      let _ ← Scan.next
      let digits ← Scan.grouped Char.isDigit
      pure (some digits)
    else pure none
  let exponent ← exponent
  if fraction.isNone ∧ exponent.isNone then
    let n := Scan.decimal whole
    if n < Nat.pow 2 63 ∨ (negative ∧ n = Nat.pow 2 63) then return else Scan.stop
  else
    let places := fraction.getD []
    let m := Scan.decimal (whole ++ places)
    if !negative && overflows m (exponent.getD 0 - places.length) then Scan.stop else return

/-- An integer to another base, its mark taken before. -/
def based (base : Nat) : Scan Unit := do
  let digits ← Scan.grouped fun c => match Text.hexValue? c with
    | some v => v < base
    | none => false
  let n := digits.foldl (fun n c => base * n + (Text.hexValue? c).getD 0) 0
  if n < Nat.pow 2 63 then return else Scan.stop

/-- A number. -/
def scan : Scan Unit := do
  if ← Scan.ahead ['0', 'x'] then
    Scan.text ['0', 'x']
    based 16
  else if ← Scan.ahead ['0', 'o'] then
    Scan.text ['0', 'o']
    based 8
  else if ← Scan.ahead ['0', 'b'] then
    Scan.text ['0', 'b']
    based 2
  else
    let negative ← sign
    if ← Scan.ahead ['i', 'n', 'f'] then Scan.text ['i', 'n', 'f']
    else if ← Scan.ahead ['n', 'a', 'n'] then Scan.text ['n', 'a', 'n']
    else decimalNumber (negative = some true)

end TokenClient.Toml.Number
