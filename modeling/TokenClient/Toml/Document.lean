import TokenClient.Toml.Moment
import TokenClient.Toml.Node
import TokenClient.Toml.Number
import TokenClient.Toml.Quoted

/-!
# Reading TOML documents

A document is a series of lines, each a header, a setting, a comment or nothing. The lines are scanned
first and then gathered into sections, and the sections build the tree. Nesting and the number of a key's
parts are bounded.
-/

namespace TokenClient.Toml

/-- Arrays and braces nest less deeply than this, and keys have fewer parts. -/
def depthLimit : Nat := 80

/-- Whether a character may stand in a key without quotes. -/
def isBare (c : Char) : Bool := c.isAlphanum || c == '-' || c == '_'

/-- One part of a key. -/
def keyPart : Scan String := do
  match ← Scan.peek with
  | some '"' => Quoted.singleLine '"'
  | some '\'' => Quoted.singleLine '\''
  | _ =>
    let cs ← Scan.run isBare
    if cs.isEmpty then Scan.stop else return String.ofList cs

/-- The parts of a key, with blanks around each of them. -/
def keyParts : (fuel : Nat) → Scan (List String)
  | 0 => Scan.stop
  | fuel + 1 => do
    Scan.blanks
    let part ← keyPart
    Scan.blanks
    if (← Scan.peek) = some '.' then
      let _ ← Scan.next
      return part :: (← keyParts fuel)
    else return [part]

/-- A key: the parts before the last one, and the last one. Keys of too many parts are refused. -/
def key : Scan (List String × String) := do
  let parts ← keyParts (depthLimit - 1)
  match parts.reverse with
  | last :: before => return (before.reverse, last)
  | [] => Scan.stop

/-- A truth value. -/
def boolean : Scan Bool := do
  if ← Scan.ahead "true".toList then
    Scan.text "true".toList
    return true
  else
    Scan.text "false".toList
    return false

/-- A number or a moment. -/
def numeric : Scan Node := do
  match ← Scan.attempt Moment.scan with
  | some text => return .moment text
  | none =>
    Number.scan
    return .number

mutual

/-- A value that nests less than `depth` deep. -/
def value (depth fuel : Nat) : Scan Node :=
  match fuel with
  | 0 => Scan.stop
  | fuel + 1 => do
    match ← Scan.peek with
    | some '"' => return .string (← Quoted.scan '"')
    | some '\'' => return .string (← Quoted.scan '\'')
    | some '[' =>
      let _ ← Scan.next
      match depth with
      | 0 => Scan.stop
      | depth + 1 => return .array (← elements depth fuel)
    | some '\x7b' =>
      let _ ← Scan.next
      match depth with
      | 0 => Scan.stop
      | depth + 1 =>
        match Entries.assignAll [] (← braced depth fuel) with
        | some entries => return .table .braces entries
        | none => Scan.stop
    | some 't' | some 'f' => return .boolean (← boolean)
    | some _ => numeric
    | none => Scan.stop

/-- The elements of an array up to its end, its opening bracket taken before. -/
def elements (depth fuel : Nat) : Scan (List Node) :=
  match fuel with
  | 0 => Scan.stop
  | fuel + 1 => do
    Scan.filler (← Scan.remaining)
    if (← Scan.peek) = some ']' then
      let _ ← Scan.next
      return []
    else
      let first ← value depth fuel
      Scan.filler (← Scan.remaining)
      match ← Scan.next with
      | ',' => return first :: (← elements depth fuel)
      | ']' => return [first]
      | _ => Scan.stop

/-- The settings in braces up to their end, the opening brace taken before. -/
def braced (depth fuel : Nat) : Scan Entries.Settings := do
  Scan.blanks
  if (← Scan.peek) = some '\x7d' then
    let _ ← Scan.next
    return []
  else settings depth fuel

/-- At least one setting, and those after it up to the closing brace. -/
def settings (depth fuel : Nat) : Scan Entries.Settings :=
  match fuel with
  | 0 => Scan.stop
  | fuel + 1 => do
    let (path, last) ← key
    Scan.char '='
    Scan.blanks
    let node ← value depth fuel
    Scan.blanks
    match ← Scan.next with
    | ',' => return (path, last, node) :: (← settings depth fuel)
    | '\x7d' => return [(path, last, node)]
    | _ => Scan.stop

end

/-- A line of a document. -/
inductive Line where
  | blank
  /-- A header, of a table or of the next element of an array of tables. -/
  | header (element : Bool) (path : List String) (key : String)
  | setting (path : List String) (key : String) (node : Node)

/-- A header with its brackets. -/
def headerLine : Scan Line := do
  Scan.char '['
  let element := (← Scan.peek) = some '['
  if element then Scan.char '['
  let (path, last) ← key
  Scan.char ']'
  if element then Scan.char ']'
  return .header element path last

/-- A setting. -/
def settingLine : Scan Line := do
  let (path, last) ← key
  Scan.char '='
  Scan.blanks
  let node ← value (depthLimit - 1) (2 * (← Scan.remaining))
  return .setting path last node

/-- A line with its end. -/
def line : Scan Line := do
  Scan.blanks
  let line ← match ← Scan.peek with
    | none | some '#' | some '\n' | some '\r' => pure Line.blank
    | some '[' => headerLine
    | some _ => settingLine
  Scan.lineEnd
  return line

/-- The lines up to the end of the text. -/
def lines : (fuel : Nat) → Scan (List Line)
  | 0 => Scan.stop
  | fuel + 1 => do
    match ← Scan.peek with
    | none => return []
    | some _ =>
      let first ← line
      return first :: (← lines fuel)

/-- The settings before the first header. -/
def leading : List Line → Entries.Settings
  | [] => []
  | .blank :: rest => leading rest
  | .header _ _ _ :: _ => []
  | .setting path key node :: rest => (path, key, node) :: leading rest

/-- The entries with the sections of a list of lines added in order; settings before the first header
are not looked at. -/
def build (entries : Entries) : List Line → Option Entries
  | [] => some entries
  | .header element path key :: rest =>
    (entries.addSection element path key (leading rest)).bind fun entries => build entries rest
  | _ :: rest => build entries rest

/-- The entries of a document; none if the text is no document. A byte order mark in front is left out. -/
def parse? (text : String) : Option Entries :=
  let cs := match text.toList with
    | '\uFEFF' :: cs => cs
    | cs => cs
  (lines (cs.length + 1) cs).bind fun (lines, _) =>
    (Entries.assignAll [] (leading lines)).bind fun entries => build entries lines

end TokenClient.Toml
