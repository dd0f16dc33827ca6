import TokenClient.Code.Literal

/-!
# Names of codes

A family of codes — return values, object classes, key types, mechanisms — has a table of standard
names. A code outside the table still gets a name that shows its number, and vendor codes are set apart
from the others, so that no two codes of a family share a name.
-/

namespace TokenClient

/-- A family of codes with the names that are fixed for some of them. -/
structure Naming where
  family : String
  table : List (Code × String)

namespace Naming

/-- The name of a code. Without an entry in the table it is the family's name with the vendor's own number,
or with all of a code that no vendor assigned. -/
def name (naming : Naming) (code : Code) : String :=
  match naming.table.lookup code with
  | some name => name
  | none =>
    if code.isVendor then
      naming.family ++ "_VENDOR_DEFINED+0x" ++ String.ofList (Text.hexCode code.vendorNumber)
    else
      naming.family ++ "_0x" ++ String.ofList (Text.hexCode8 code)

/-- The code that the table gives for a name. -/
def find? (naming : Naming) (name : String) : Option Code :=
  (naming.table.find? (·.2 == name)).map (·.1)

/-- The code that a name or a hexadecimal literal stands for. -/
def code? (naming : Naming) (text : String) : Option Code :=
  naming.find? text <|> Code.ofLiteral? text

end Naming

end TokenClient
