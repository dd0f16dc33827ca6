import TokenClient.Attribute.Basic
import TokenClient.Code.KeyType
import TokenClient.Code.MechanismType
import TokenClient.Code.ObjectClass

/-!
# Attributes as text

One line for an attribute: its name and its value, or why there is none. Object classes, key types and
mechanisms show their names, bytes their digits, a nested template its attributes in braces.
-/

namespace TokenClient

/-- The text of a number in an attribute of this type. -/
def numberText (type number : Code) : String :=
  if type = AttributeType.objectClass then ObjectClass.name number
  else if type = AttributeType.keyType then KeyType.name number
  else toString number.toNat

mutual

/-- The text of a value in an attribute of this type. -/
def Value.display (type : Code) : Value → String
  | .bool b => if b then "true" else "false"
  | .number n => numberText type n
  | .bytes b => String.ofList (Text.hexBytes b)
  | .text s => s
  | .date d => d.display
  | .mechanism m => MechanismType.name m
  | .mechanisms ms => "[" ++ String.intercalate ", " (ms.map MechanismType.name) ++ "]"
  | .template ⟨as⟩ => "\x7b" ++ String.intercalate "; " (Attribute.displays as) ++ "\x7d"

/-- The text of what is known of an attribute of this type. -/
def Reading.display (type : Code) : Reading → String
  | .unknown => "<Value is not present or sensitive>"
  | .absent => "<Attribute not present>"
  | .sensitive => "<Value is sensitive>"
  | .empty => "<empty>"
  | .held v => v.display type

/-- The text of an attribute. -/
def Attribute.display : Attribute → String
  | ⟨type, _, reading⟩ => AttributeType.name type ++ ": " ++ reading.display type

/-- The texts of a list of attributes. -/
def Attribute.displays : List Attribute → List String
  | [] => []
  | a :: as => a.display :: Attribute.displays as

end

/-- The text of a template: an indented line for each attribute. -/
def Template.display (t : Template) : String :=
  String.intercalate "\n" ((Attribute.displays t.attributes).map ("  " ++ ·))

end TokenClient
