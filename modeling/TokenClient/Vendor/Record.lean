import TokenClient.Module.Info
import TokenClient.Text.LowerCase

/-!
# Vendor records

A configuration lists, for modules with codes of their own, which modules are meant and which codes they
use. Four selectors, each of them optional, say which modules: three hold substrings of the module's path,
manufacturer and description, one a version. A record applies to a module if every selector that is set
holds.
-/

namespace TokenClient

/-- Generic code names with the vendor's codes, in the order of the names. -/
abbrev CodeTable := List (String × String)

namespace CodeTable

/-- A code table with an entry added in the order of the names; the later value of a name wins. -/
def insert (name value : String) : CodeTable → CodeTable
  | [] => [(name, value)]
  | (other, old) :: entries =>
    if name = other then (name, value) :: entries
    else if name < other then (name, value) :: (other, old) :: entries
    else (other, old) :: insert name value entries

/-- The code table of a list of entries. -/
def ofList (entries : List (String × String)) : CodeTable :=
  entries.foldl (fun table (name, value) => insert name value table) []

end CodeTable

/-- Which modules use which vendor codes. -/
structure VendorRecord where
  modulePath : Option String
  manufacturerId : Option String
  description : Option String
  version : Option String
  codes : CodeTable
deriving DecidableEq, Repr

namespace VendorRecord

/-- Whether `part` occurs in a text. -/
def occursIn (part : List Char) : List Char → Bool
  | [] => part.isEmpty
  | c :: cs => part.isPrefixOf (c :: cs) || occursIn part cs

/-- The pieces of a text between its colons. -/
def pieces : List Char → List (List Char)
  | [] => [[]]
  | ':' :: cs => [] :: pieces cs
  | c :: cs =>
    match pieces cs with
    | [] => [[c]]
    | piece :: more => (c :: piece) :: more

/-- Whether one of a selector's pieces, set off by colons and trimmed, occurs in a text, case aside. A piece
of white space alone never does. -/
def anySubstring (selector text : String) : Bool :=
  ((pieces selector.toList).map fun piece => Text.lower (Text.trim piece)).any fun piece =>
    !piece.isEmpty && occursIn piece (Text.lower text.toList)

/-- Whether a selector of substrings, if it is set, holds for a text, if there is one. -/
def selects (selector text : Option String) : Bool :=
  match selector, text with
  | none, _ => true
  | some _, none => false
  | some selector, some text => anySubstring selector text

/-- Whether a version selector, if it is set, holds for a version. -/
def versionSelects (selector : Option String) (version : Version) : Except Error Bool :=
  match selector with
  | none => .ok true
  | some selector => (Version.Range.parse selector).map (·.contains version)

/-- Whether a record applies to a module. The version selector is read last, so a faulty one shows only
where the others hold. -/
def applies (record : VendorRecord) (path : Option String) (info : ModuleInfo) :
    Except Error Bool :=
  if selects record.modulePath path &&
      selects record.manufacturerId (some info.manufacturerId) &&
      selects record.description (some info.libraryDescription) then
    versionSelects record.version info.libraryVersion
  else .ok false

end VendorRecord

end TokenClient
