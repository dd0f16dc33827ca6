import TokenClient.Attribute.Equality
import TokenClient.Attribute.Typing

/-!
# Templates

A template is an ordered collection of attributes of distinct types. Writing a type that is already there
replaces its attribute in place, so the order is always that in which the types first came.
-/

namespace TokenClient

namespace Attribute

/-- A list of attributes with `a` in place of the first one of its type, or at the end. -/
def insertInto (a : Attribute) : List Attribute → List Attribute
  | [] => [a]
  | b :: as => if b.type = a.type then a :: as else b :: insertInto a as

end Attribute

namespace Template

/-- The template without attributes. -/
def empty : Template := ⟨[]⟩

/-- The template with an attribute added, or put in the place of the one of its type. -/
def insert (t : Template) (a : Attribute) : Template := ⟨a.insertInto t.attributes⟩

/-- The template with a value for a type. -/
def set (t : Template) (type : Code) (value : Value) : Except Error Template :=
  (Attribute.withValue type value).map t.insert

/-- The attributes to be read for a list of types. -/
def ofTypes (types : List Code) : Except Error Template :=
  types.foldlM (fun t type => (Attribute.make type).map t.insert) empty

/-- The attribute of a type. -/
def get? (t : Template) (type : Code) : Option Attribute := t.attributes.find? (·.type == type)

/-- Whether there is an attribute of a type. -/
def contains (t : Template) (type : Code) : Bool := (t.get? type).isSome

/-- The template without the attribute of a type. -/
def erase (t : Template) (type : Code) : Template := ⟨t.attributes.eraseP (·.type == type)⟩

/-- The types in order. -/
def types (t : Template) : List Code := t.attributes.map (·.type)

/-- How many attributes there are. -/
def size (t : Template) : Nat := t.attributes.length

/-- Whether there is no attribute. -/
def isEmpty (t : Template) : Bool := t.attributes.isEmpty

/-- The template with a new value in the attribute of a type; none if it has no such attribute. -/
def setValue? (t : Template) (type : Code) (value : Value) : Option (Except Error Template) :=
  (t.get? type).map fun a => (a.setValue value).map t.insert

/-- What an accessor finds in the attribute of a type; nothing where there is no such attribute. -/
def read {α : Type} (accessor : Attribute → Except Error (Option α)) (t : Template) (type : Code) :
    Except Error (Option α) :=
  match t.get? type with
  | some a => accessor a
  | none => .ok none

def bool? : Template → Code → Except Error (Option Bool) := read Attribute.bool?
def number? : Template → Code → Except Error (Option Code) := read Attribute.number?
def bytes? : Template → Code → Except Error (Option Bytes) := read Attribute.bytes?
def text? : Template → Code → Except Error (Option String) := read Attribute.text?
def bigNat? : Template → Code → Except Error (Option Nat) := read Attribute.bigNat?

end Template

end TokenClient
