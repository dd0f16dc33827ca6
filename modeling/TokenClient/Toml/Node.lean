/-!
# TOML documents as trees

The tree that a TOML document builds, and the two ways in which a document adds to it: a setting under a
key of several parts, and a section under a header. A table remembers how it came to be, because that
decides who may still add to it: a table named by a header takes no second header, one written in braces
takes nothing at all, and a setting may only reach into tables that headers or settings before it merely
passed through.
-/

namespace TokenClient.Toml

/-- How a table came to be. -/
inductive Origin where
  /-- A header names it, or it is an element of an array of tables, or the document itself. -/
  | header
  /-- A header passed through it on the way to a table in it. -/
  | passed
  /-- The key of a setting passed through it. -/
  | dotted
  /-- It was written in braces. -/
  | braces
deriving DecidableEq, Repr

/-- A value of a document. What numbers there are, is of no use to a configuration, so their values are
left out. -/
inductive Node where
  | string (text : String)
  | number
  | boolean (value : Bool)
  /-- A date, a time or both, in the canonical text. -/
  | moment (text : String)
  | array (elements : List Node)
  | table (origin : Origin) (entries : List (String × Node))
  /-- An array of tables built by headers, the last one first. -/
  | tables (elements : List (List (String × Node)))

/-- The entries of a table. -/
abbrev Entries := List (String × Node)

namespace Entries

/-- The value of a key. -/
def get? (entries : Entries) (key : String) : Option Node :=
  (entries.find? (·.1 == key)).map (·.2)

/-- The entries with a value for a key, put last. -/
def put (entries : Entries) (key : String) (node : Node) : Entries :=
  entries.filter (·.1 != key) ++ [(key, node)]

/-- The entries with a setting added, its key being the parts `path` and then `key`; none if the key is
taken or leads through something that takes no settings. The table that the setting ends up in must be
one that settings alone have made. -/
def assign (entries : Entries) (path : List String) (key : String) (node : Node) : Option Entries :=
  match path with
  | [] => match entries.get? key with
    | none => some (entries.put key node)
    | some _ => none
  | part :: path =>
    match entries.get? part with
    | none => (assign [] path key node).map fun inner => entries.put part (.table .dotted inner)
    | some (.table .dotted inner) =>
      (assign inner path key node).map fun inner => entries.put part (.table .dotted inner)
    | some (.table .passed inner) =>
      if path.isEmpty then none
      else (assign inner path key node).map fun inner => entries.put part (.table .passed inner)
    | some (.tables (last :: others)) =>
      if path.isEmpty then none
      else (assign last path key node).map fun last => entries.put part (.tables (last :: others))
    | _ => none

/-- The settings of one table: pairs of a key of several parts and a value. -/
abbrev Settings := List (List String × String × Node)

/-- The entries with settings added one after the other. -/
def assignAll (entries : Entries) (settings : Settings) : Option Entries :=
  settings.foldlM (fun entries (path, key, node) => entries.assign path key node) entries

/-- The entries with a section added: the settings under a header that names a table, or the next table
of an array. None if the header names something that takes no section, or a setting cannot be added. -/
def addSection (entries : Entries) (element : Bool) (path : List String) (key : String)
    (settings : Settings) : Option Entries :=
  match path with
  | [] =>
    match element, entries.get? key with
    | false, none => (assignAll [] settings).map fun inner => entries.put key (.table .header inner)
    | false, some (.table .passed inner) =>
      (assignAll inner settings).map fun inner => entries.put key (.table .header inner)
    | true, none => (assignAll [] settings).map fun inner => entries.put key (.tables [inner])
    | true, some (.tables others) =>
      (assignAll [] settings).map fun inner => entries.put key (.tables (inner :: others))
    | _, _ => none
  | part :: path =>
    match entries.get? part with
    | none =>
      (addSection [] element path key settings).map fun inner =>
        entries.put part (.table .passed inner)
    | some (.table .braces _) => none
    | some (.table origin inner) =>
      (addSection inner element path key settings).map fun inner =>
        entries.put part (.table origin inner)
    | some (.tables (last :: others)) =>
      (addSection last element path key settings).map fun last =>
        entries.put part (.tables (last :: others))
    | _ => none

end Entries

end TokenClient.Toml
