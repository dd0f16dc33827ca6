import TokenClient.Attribute.Basic

/-!
# Renumbering key types

A key type is a number that vendors assign, and it may stand in a template at any depth. Renumbering
applies a function to each of them and touches nothing else.
-/

namespace TokenClient

/-- A reading with its number, if it holds one, replaced. -/
def Reading.mapNumber (f : Code → Code) : Reading → Reading
  | .held (.number n) => .held (.number (f n))
  | reading => reading

mutual

/-- A value with the key types of the templates in it renumbered. -/
def Value.mapKeyTypes (f : Code → Code) : Value → Value
  | .template ⟨as⟩ => .template ⟨Attribute.mapKeyTypesAll f as⟩
  | .bool b => .bool b
  | .number n => .number n
  | .bytes b => .bytes b
  | .text s => .text s
  | .date d => .date d
  | .mechanism m => .mechanism m
  | .mechanisms ms => .mechanisms ms

/-- A reading with the key types of the templates in it renumbered. -/
def Reading.mapKeyTypes (f : Code → Code) : Reading → Reading
  | .held v => .held (v.mapKeyTypes f)
  | .unknown => .unknown
  | .absent => .absent
  | .sensitive => .sensitive
  | .empty => .empty

/-- An attribute with the key types in it renumbered: its own number if it is a key type, else those of
a template it holds. -/
def Attribute.mapKeyTypes (f : Code → Code) : Attribute → Attribute
  | ⟨type, kind, reading⟩ =>
    ⟨type, kind,
      if type = AttributeType.keyType then reading.mapNumber f else reading.mapKeyTypes f⟩

/-- A list of attributes with the key types in them renumbered. -/
def Attribute.mapKeyTypesAll (f : Code → Code) : List Attribute → List Attribute
  | [] => []
  | a :: as => a.mapKeyTypes f :: Attribute.mapKeyTypesAll f as

end

/-- Renumbering leaves the type of an attribute alone. -/
@[simp]
theorem Attribute.type_mapKeyTypes (f : Code → Code) (a : Attribute) :
    (a.mapKeyTypes f).type = a.type := by
  cases a
  simp [Attribute.mapKeyTypes]

/-- A template with the key types in it renumbered. -/
def Template.mapKeyTypes (f : Code → Code) (t : Template) : Template :=
  ⟨Attribute.mapKeyTypesAll f t.attributes⟩

end TokenClient
