import TokenClient.Toml.Document
import TokenClient.Vendor.Config

/-!
# Configurations in TOML

A configuration is a TOML document with the setting `use_utf8` and an array `vendor` of records; both may
be missing, and what has another name is left aside. A record is a table with the settings
`module_path`, `manufacturer_id`, `description`, `version` and the table `codes`, or an array that gives
them in this order, the codes last and optional.

Where a table is expected a moment counts as a table too, with its text as the only entry under a name
that no configuration uses otherwise.
-/

namespace TokenClient.Config

open Toml (Node Entries)

/-- The name under which a moment holds its text when it is looked at as a table. -/
def momentKey : String := "$__toml_private_datetime"

/-- The entries of a node that can be looked at as a table. -/
def entries? : Node → Option Entries
  | .table _ entries => some entries
  | .moment text => some [(momentKey, .string text)]
  | _ => none

def string? : Node → Option String
  | .string text => some text
  | _ => none

def boolean? : Node → Option Bool
  | .boolean b => some b
  | _ => none

/-- A code table: every entry has to be a string. -/
def codes? (node : Node) : Option CodeTable :=
  (entries? node).bind fun entries =>
    (entries.mapM fun entry => (string? entry.2).map fun value => (entry.1, value)).map
      CodeTable.ofList

/-- A setting that may be missing but must be right where it is there. -/
def optional {α : Type} (entries : Entries) (key : String) (read : Node → Option α) :
    Option (Option α) :=
  match entries.get? key with
  | none => some none
  | some node => (read node).map some

/-- A record given by names. -/
def namedRecord? (entries : Entries) : Option VendorRecord := do
  let path ← optional entries "module_path" string?
  let manufacturer ← optional entries "manufacturer_id" string?
  let description ← optional entries "description" string?
  let version ← optional entries "version" string?
  let codes ← optional entries "codes" codes?
  return ⟨path, manufacturer, description, version, codes.getD []⟩

/-- A record given by position. What follows the codes is left aside. -/
def positionalRecord? : List Node → Option VendorRecord
  | path :: manufacturer :: description :: version :: rest => do
    let path ← string? path
    let manufacturer ← string? manufacturer
    let description ← string? description
    let version ← string? version
    let codes ← match rest with
      | [] => some []
      | node :: _ => codes? node
    return ⟨some path, some manufacturer, some description, some version, codes⟩
  | _ => none

def record? : Node → Option VendorRecord
  | .array elements => positionalRecord? elements
  | node => (entries? node).bind namedRecord?

/-- The records of an array, written as a value or by headers. -/
def records? : Node → Option (List VendorRecord)
  | .array elements => elements.mapM record?
  | .tables elements => elements.reverse.mapM namedRecord?
  | _ => none

/-- The configuration of a document's entries. -/
def ofEntries? (entries : Entries) : Option Config := do
  let useUtf8 ← optional entries "use_utf8" boolean?
  let vendors ← optional entries "vendor" records?
  return ⟨useUtf8.getD true, vendors.getD []⟩

/-- The configuration that a document writes, its version selectors checked. -/
def parse (text : String) : Except Error Config :=
  match (Toml.parse? text).bind ofEntries? with
  | some config => config.checked
  | none => .error (.configCause "the document is not a TOML configuration")

end TokenClient.Config
