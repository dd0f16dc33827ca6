import TokenClient.Vendor.CodeMap

/-!
# Configurations

The character encoding and the vendor records that a client is set up with, and the choice of a record
for a loaded module: the first one that applies.
-/

namespace TokenClient

/-- What a client is set up with. -/
structure Config where
  useUtf8 : Bool
  vendors : List VendorRecord
deriving DecidableEq, Repr

namespace Config

/-- UTF-8 and no vendor records. -/
def default : Config := ⟨true, []⟩

/-- The first record of a list that applies to a module. A record that cannot be checked stops the search. -/
def firstApplying (path : Option String) (info : ModuleInfo) :
    List VendorRecord → Except Error (Option VendorRecord)
  | [] => .ok none
  | record :: records =>
    match record.applies path info with
    | .error e => .error e
    | .ok true => .ok (some record)
    | .ok false => firstApplying path info records

/-- The vendor record for a module. -/
def selectVendor (config : Config) (path : Option String) (info : ModuleInfo) :
    Except Error (Option VendorRecord) :=
  firstApplying path info config.vendors

/-- The code map for a module: that of its vendor record, or the one that translates nothing. -/
def codeMap (config : Config) (path : Option String) (info : ModuleInfo) : Except Error CodeMap := do
  match ← config.selectVendor path info with
  | some record => CodeMap.ofRecord record
  | none => return .empty

/-- Checks that every version selector can be read, and returns the configuration if so. -/
def checked (config : Config) : Except Error Config :=
  (config.vendors.forM fun record =>
    match record.version with
    | some selector => (Version.Range.parse selector).map fun _ => ()
    | none => Except.ok ()).map fun _ => config

end Config

end TokenClient
