import TokenClient.Attribute.Basic
import TokenClient.Text.Utf8

/-!
# Making and changing attributes

The kind of a known attribute type is fixed by the table; a vendor type takes the kind of its first
value. A value may be given in a neighbouring kind — a mechanism where a number is stored and the other
way round, well-formed UTF-8 where a text is — and is refused otherwise, and a refused value leaves the
attribute as it was.
-/

namespace TokenClient

/-- A value brought to a kind, if it fits. -/
def Value.coerce (kind : Kind) (value : Value) : Except Error Value :=
  match kind, value with
  | .number, .mechanism m => .ok (.number m)
  | .mechanism, .number n => .ok (.mechanism n)
  | .text, .bytes b =>
    match Text.Utf8.decode? b with
    | some cs => .ok (.text (String.ofList cs))
    | none => .error (.token Rv.attributeValueInvalid)
  | kind, value =>
    if value.kind = kind then .ok value else .error (.token Rv.attributeValueInvalid)

/-- A big number is stored as bytes. -/
def Value.ofBigNat (n : Nat) : Value := .bytes (BigNat.toBytes n)

/-- The kind that a type stores: the table's, or for a vendor type outside it the kind of the value at
hand, bytes where there is none. -/
def AttributeType.kindFor (type : Code) (given : Option Kind) : Except Error Kind :=
  match kind? type with
  | some kind => .ok kind
  | none => if type.isVendor then .ok (given.getD .bytes) else .error (.unknownAttributeType type)

namespace Attribute

/-- The kind in which a value that comes from a token is read; bytes for any type outside the table. -/
def wireKind (type : Code) : Kind := (AttributeType.kind? type).getD .bytes

/-- An attribute to be read, nothing about an object yet. -/
def make (type : Code) : Except Error Attribute :=
  (AttributeType.kindFor type none).map fun kind => ⟨type, kind, .absent⟩

/-- An attribute with a value. -/
def withValue (type : Code) (value : Value) : Except Error Attribute := do
  let kind ← AttributeType.kindFor type (some value.kind)
  let value ← value.coerce kind
  return ⟨type, kind, .held value⟩

/-- An attribute of which the token told nothing. -/
def unknown (type : Code) : Attribute := ⟨type, wireKind type, .unknown⟩

/-- An attribute that the object does not have. -/
def absent (type : Code) : Attribute := ⟨type, wireKind type, .absent⟩

/-- An attribute whose value the token does not reveal. -/
def sensitive (type : Code) : Attribute := ⟨type, wireKind type, .sensitive⟩

/-- The kind in which an attribute will store `value`: its own, unless it is of an unknown type and holds
nothing yet. -/
def kindToStore (a : Attribute) (value : Value) : Kind :=
  match a.reading.value?, AttributeType.kind? a.type with
  | none, none => value.kind
  | _, _ => a.kind

/-- The attribute with a new value. -/
def setValue (a : Attribute) (value : Value) : Except Error Attribute :=
  (value.coerce (a.kindToStore value)).map fun stored =>
    ⟨a.type, a.kindToStore value, .held stored⟩

end Attribute

end TokenClient
