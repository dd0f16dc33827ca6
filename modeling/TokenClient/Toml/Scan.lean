/-!
# Scanning a TOML text

A scanner takes something off the front of a text or fails. Here are the smallest ones — single
characters, runs, line ends, comments, digits — which the scanners of strings, numbers, moments and whole
documents are made of.
-/

namespace TokenClient.Toml

/-- A scanner: from the text ahead to a result and the text left, or failure. -/
abbrev Scan := StateT (List Char) Option

namespace Scan

/-- Fails. -/
def stop {α : Type} : Scan α := fun _ => none

/-- The next character, left where it is; none at the end. -/
def peek : Scan (Option Char) := fun cs => some (cs.head?, cs)

/-- Takes the next character. -/
def next : Scan Char
  | [] => none
  | c :: cs => some (c, cs)

/-- Takes this character. -/
def char (c : Char) : Scan Unit
  | [] => none
  | d :: cs => if d = c then some ((), cs) else none

/-- Whether this text is ahead. -/
def ahead (text : List Char) : Scan Bool := fun cs => some (text.isPrefixOf cs, cs)

/-- Takes this text. -/
def text (text : List Char) : Scan Unit := fun cs =>
  if text.isPrefixOf cs then some ((), cs.drop text.length) else none

/-- Takes the longest run of characters of a class. -/
def run (p : Char → Bool) : Scan (List Char) := fun cs => some (cs.takeWhile p, cs.dropWhile p)

/-- What a scanner finds, or none where it fails, and then nothing is taken. -/
def attempt {α : Type} (scan : Scan α) : Scan (Option α) := fun cs =>
  match scan cs with
  | some (a, rest) => some (some a, rest)
  | none => some (none, cs)

/-- Blanks within a line. -/
def isBlank (c : Char) : Bool := c == ' ' || c == '\t'

/-- What may stand in a comment: anything but control characters other than the tabulator. -/
def isPrintable (c : Char) : Bool := c == '\t' || (0x20 ≤ c.toNat && c.toNat != 0x7F)

/-- Takes blanks. -/
def blanks : Scan Unit := do
  let _ ← run isBlank

/-- Takes the end of a line. -/
def newline : Scan Unit
  | '\n' :: cs => some ((), cs)
  | '\r' :: '\n' :: cs => some ((), cs)
  | _ => none

/-- Takes a comment, if there is one, up to the end of its line. -/
def comment : Scan Unit := do
  if (← peek) = some '#' then
    let _ ← run isPrintable

/-- Takes blanks and a comment at the end of a line, and the end of the line or of the text. -/
def lineEnd : Scan Unit := do
  blanks
  comment
  match ← peek with
  | none => return
  | some _ => newline

/-- Takes blanks, comments and line ends as far as they go. -/
def filler : (fuel : Nat) → Scan Unit
  | 0 => pure ()
  | fuel + 1 => do
    match ← peek with
    | some ' ' | some '\t' => blanks; filler fuel
    | some '#' => comment; filler fuel
    | some '\n' | some '\r' => newline; filler fuel
    | _ => pure ()

/-- How many steps a scanner that takes at least a character a step can go. -/
def remaining : Scan Nat := fun cs => some (cs.length + 1, cs)

/-- A decimal digit. -/
def digit : Scan Char := do
  let c ← next
  if c.isDigit then return c else stop

/-- The number that decimal digits write. -/
def decimal (digits : List Char) : Nat := digits.foldl (fun n c => 10 * n + (c.toNat - 0x30)) 0

/-- The number of exactly `count` digits ahead, if it lies between `low` and `high`. -/
def field (count low high : Nat) : Scan Nat := fun cs =>
  let digits := cs.take count
  let n := decimal digits
  if digits.length = count ∧ digits.all Char.isDigit ∧ low ≤ n ∧ n ≤ high then
    some (n, cs.drop count)
  else none

/-- Digits of a class, each of them but the first one perhaps after a single underscore. -/
def grouped (p : Char → Bool) : Scan (List Char) := do
  let first ← next
  if p first then
    let rest ← more (← remaining)
    return first :: rest
  else stop
where
  /-- The digits after the first one. -/
  more : (fuel : Nat) → Scan (List Char)
    | 0 => pure []
    | fuel + 1 => do
      match ← peek with
      | some '_' =>
        let _ ← next
        let c ← next
        if p c then return c :: (← more fuel) else stop
      | some c =>
        if p c then
          let _ ← next
          return c :: (← more fuel)
        else return []
      | none => return []

end Scan

end TokenClient.Toml
