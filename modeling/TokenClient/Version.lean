import TokenClient.Error
import TokenClient.Text.Blank

/-!
# Versions

Version numbers of two parts, their order, and the texts in which a configuration gives them: `2`, `2.4`
or a range `2.0-2.6` with both ends included.
-/

namespace TokenClient

/-- A version of two parts. -/
structure Version where
  major : UInt8
  minor : UInt8
deriving DecidableEq, Repr, Inhabited

namespace Version

/-- The version zero. -/
def zero : Version := ⟨0, 0⟩

/-- Whether a version comes before another or is the same: the major part decides first. -/
def le (v w : Version) : Bool :=
  v.major < w.major || (v.major == w.major && v.minor ≤ w.minor)

/-- The text of a version. -/
def display (v : Version) : String := toString v.major.toNat ++ "." ++ toString v.minor.toNat

/-- The number that decimal digits, at least one, continue from `n`. -/
def decimalFrom? (n : Nat) : List Char → Option Nat
  | [] => some n
  | c :: cs => if c.isDigit then decimalFrom? (10 * n + (c.toNat - 0x30)) cs else none

/-- The part of a version that a text writes: decimal digits below 256, a plus sign allowed in front. -/
def part? (cs : List Char) : Option UInt8 :=
  let digits := match cs with
    | '+' :: rest => rest
    | cs => cs
  if digits.isEmpty then none
  else (decimalFrom? 0 digits).bind fun n => if n < 256 then some (UInt8.ofNat n) else none

/-- The text before the first `separator` and the text after it. -/
def splitOnce (separator : Char) : List Char → Option (List Char × List Char)
  | [] => none
  | c :: cs =>
    if c = separator then some ([], cs)
    else (splitOnce separator cs).map fun (before, after) => (c :: before, after)

/-- The version that a text writes, the minor part being zero where there is none. -/
def parse (cs : List Char) : Except Error Version :=
  let text := Text.trim cs
  let (major, minor) := (splitOnce '.' text).getD (text, ['0'])
  match part? major, part? minor with
  | some major, some minor => .ok ⟨major, minor⟩
  | _, _ => .error (.config ("invalid version '" ++ String.ofList text ++ "'"))

/-- Which versions a selector takes in. -/
inductive Range where
  | exactly (version : Version)
  | between (low high : Version)
deriving DecidableEq, Repr

/-- Whether a range takes in a version. -/
def Range.contains : Range → Version → Bool
  | exactly w, v => v == w
  | between low high, v => low.le v && v.le high

/-- The range that a selector writes. -/
def Range.parse (selector : String) : Except Error Range :=
  match splitOnce '-' selector.toList with
  | some (low, high) => do
    let low ← Version.parse low
    let high ← Version.parse high
    return .between low high
  | none => (Version.parse selector.toList).map .exactly

end Version

end TokenClient
