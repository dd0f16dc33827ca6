import TokenClient.Text.Hex
import TokenClient.Toml.Scan

/-!
# Strings in TOML

Strings stand in double quotes, where a backslash opens an escape, or in single quotes, where nothing
does. Three quotes open a string of several lines: a line end right after them is left out, line ends
are line feeds, one or two quotes may stand inside, and up to two may stand right before the closing three.
-/

namespace TokenClient.Toml.Quoted

/-- The character of a number, if there is one: surrogates and numbers past the last character have none. -/
def character? (n : Nat) : Option Char :=
  if n < 0xD800 ∨ (0xE000 ≤ n ∧ n < 0x110000) then some (Char.ofNat n) else none

/-- The character that `count` hexadecimal digits give. -/
def numbered (count : Nat) : Scan Char := fun cs =>
  let digits := cs.take count
  if digits.length = count then
    (Text.hexNumber? digits).bind fun n => (character? n).map fun c => (c, cs.drop count)
  else none

/-- The character of an escape, its backslash taken before. -/
def escape : Scan Char := do
  match ← Scan.next with
  | 'b' => return '\x08'
  | 't' => return '\t'
  | 'n' => return '\n'
  | 'f' => return '\x0c'
  | 'r' => return '\r'
  | '"' => return '"'
  | '\\' => return '\\'
  | 'u' => numbered 4
  | 'U' => numbered 8
  | _ => Scan.stop

/-- The rest of a string of one line in these quotes. -/
def line (quote : Char) : (fuel : Nat) → Scan (List Char)
  | 0 => Scan.stop
  | fuel + 1 => do
    let c ← Scan.next
    if c = quote then return []
    else if c = '\\' ∧ quote = '"' then
      let c ← escape
      return c :: (← line quote fuel)
    else if Scan.isPrintable c then return c :: (← line quote fuel)
    else Scan.stop

/-- Takes the rest of a line that a backslash ends, and all blanks and line ends after it. -/
def joinLines : Scan Unit := do
  Scan.blanks
  Scan.newline
  let _ ← Scan.run fun c => Scan.isBlank c || c == '\n'
  more (← Scan.remaining)
where
  /-- Takes further line ends that carry a carriage return, and what is blank after them. -/
  more : (fuel : Nat) → Scan Unit
    | 0 => pure ()
    | fuel + 1 => do
      if ← Scan.ahead ['\r', '\n'] then
        Scan.newline
        let _ ← Scan.run fun c => Scan.isBlank c || c == '\n'
        more fuel
      else pure ()

/-- The rest of a string of several lines in these quotes. -/
def lines (quote : Char) : (fuel : Nat) → Scan (List Char)
  | 0 => Scan.stop
  | fuel + 1 => do
    match ← Scan.peek with
    | none => Scan.stop
    | some c =>
      if c = quote then
        let quotes ← Scan.run (· == quote)
        if quotes.length < 3 then return quotes ++ (← lines quote fuel)
        else if quotes.length ≤ 5 then return quotes.drop 3
        else Scan.stop
      else if c = '\\' ∧ quote = '"' then
        let _ ← Scan.next
        match ← Scan.peek with
        | some ' ' | some '\t' | some '\n' | some '\r' =>
          joinLines
          lines quote fuel
        | _ =>
          let c ← escape
          return c :: (← lines quote fuel)
      else if c = '\n' ∨ c = '\r' then
        Scan.newline
        return '\n' :: (← lines quote fuel)
      else if Scan.isPrintable c then
        let _ ← Scan.next
        return c :: (← lines quote fuel)
      else Scan.stop

/-- A string of one line. -/
def singleLine (quote : Char) : Scan String := do
  Scan.char quote
  return String.ofList (← line quote (← Scan.remaining))

/-- A string of one or several lines. -/
def scan (quote : Char) : Scan String := do
  if ← Scan.ahead [quote, quote, quote] then
    Scan.text [quote, quote, quote]
    let _ ← Scan.attempt Scan.newline
    return String.ofList (← lines quote (← Scan.remaining))
  else singleLine quote

end TokenClient.Toml.Quoted
