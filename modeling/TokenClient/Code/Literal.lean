import TokenClient.Text.Blank
import TokenClient.Text.Hex

/-!
# Codes written in hexadecimal

A code may be given as a literal such as `0x8000_0501`. White space around it, underscores inside it
and a plus sign before its digits are allowed; a value of more than 64 bits is not a code.
-/

namespace TokenClient.Code

/-- The code that a hexadecimal literal writes. -/
def ofLiteral? (text : String) : Option Code :=
  (Text.hexLiteral? (Text.trim text.toList)).bind fun digits =>
    (Text.hexNumber? (Text.dropPlus digits)).bind fun n =>
      if n < UInt64.size then some (UInt64.ofNat n) else none

end TokenClient.Code
