import TokenClient.Attribute.Type
import TokenClient.BigNat
import TokenClient.Date

/-!
# Attributes

A typed attribute of a token object. Besides its type and the kind of value it stores, an attribute knows
what came of reading it: whether the read told anything at all, whether the object has the attribute, and
whether the token keeps its value to itself. Only some combinations of these make sense, and they are
the cases of `Reading`; a value is there only in the last of them. Attributes in which each of these is a field of its
own are in `TokenClient.Attribute.Flagged`.

Templates are ordered lists of attributes and may themselves be the value of an attribute, so values,
attributes and templates are defined together.
-/

namespace TokenClient

mutual

/-- A typed attribute value. -/
inductive Value where
  | bool (value : Bool)
  | number (value : Code)
  | bytes (value : Bytes)
  | text (value : String)
  | date (value : Date)
  | mechanism (value : Code)
  | mechanisms (value : List Code)
  | template (value : Template)

/-- What is known of an attribute of an object. -/
inductive Reading where
  /-- The token told nothing about it. -/
  | unknown
  /-- The object does not have it. -/
  | absent
  /-- The object has it and the token does not reveal its value. -/
  | sensitive
  /-- The object has it without a value. -/
  | empty
  /-- The object has it with this value. -/
  | held (value : Value)

/-- A typed attribute. -/
structure Attribute where
  type : Code
  kind : Kind
  reading : Reading

/-- An ordered list of attributes, used to describe objects and as the result of reading them. -/
structure Template where
  attributes : List Attribute

end

instance : Inhabited Template := ⟨⟨[]⟩⟩

/-- The kind of a value. -/
def Value.kind : Value → Kind
  | .bool _ => .bool
  | .number _ => .number
  | .bytes _ => .bytes
  | .text _ => .text
  | .date _ => .date
  | .mechanism _ => .mechanism
  | .mechanisms _ => .mechanisms
  | .template _ => .template

namespace Reading

/-- Whether the object is known to have the attribute. -/
def isPresent : Reading → Bool
  | unknown | absent => false
  | sensitive | empty | held _ => true

/-- Whether the token refuses to reveal the value. -/
def isSensitive : Reading → Bool
  | sensitive => true
  | _ => false

/-- Whether reading told anything. -/
def isKnown : Reading → Bool
  | unknown => false
  | _ => true

/-- The value, where there is one. -/
def value? : Reading → Option Value
  | held value => some value
  | _ => none

end Reading

namespace Attribute

/-- The name of an attribute's type. -/
def name (a : Attribute) : String := AttributeType.name a.type

/-- The value of an attribute: none if it is absent, sensitive or empty, and a failure if nothing is
known of it. -/
def value (a : Attribute) : Except Error (Option Value) :=
  match a.reading with
  | .unknown => .error (.stateUnknown a.name)
  | reading => .ok reading.value?

/-- The value of an attribute as `pick` sees it; a value that it does not see is of another kind. -/
def read {α : Type} (pick : Value → Option α) (a : Attribute) : Except Error (Option α) :=
  match a.value with
  | .error e => .error e
  | .ok none => .ok none
  | .ok (some v) =>
    match pick v with
    | some x => .ok (some x)
    | none => .error (.token Rv.attributeTypeInvalid)

def bool? (a : Attribute) : Except Error (Option Bool) :=
  a.read fun
    | .bool b => some b
    | _ => none

/-- The value of a number or mechanism attribute. -/
def number? (a : Attribute) : Except Error (Option Code) :=
  a.read fun
    | .number n => some n
    | .mechanism m => some m
    | _ => none

def bytes? (a : Attribute) : Except Error (Option Bytes) :=
  a.read fun
    | .bytes b => some b
    | _ => none

def text? (a : Attribute) : Except Error (Option String) :=
  a.read fun
    | .text s => some s
    | _ => none

def date? (a : Attribute) : Except Error (Option Date) :=
  a.read fun
    | .date d => some d
    | _ => none

def mechanisms? (a : Attribute) : Except Error (Option (List Code)) :=
  a.read fun
    | .mechanisms ms => some ms
    | _ => none

def template? (a : Attribute) : Except Error (Option Template) :=
  a.read fun
    | .template t => some t
    | _ => none

/-- The value of a byte attribute as a natural number. -/
def bigNat? (a : Attribute) : Except Error (Option Nat) :=
  a.read fun
    | .bytes b => some (BigNat.ofBytes b)
    | _ => none

end Attribute

end TokenClient
