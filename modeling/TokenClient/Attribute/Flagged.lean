import TokenClient.Attribute.Display
import TokenClient.Template.Edit

/-!
# Attributes by their flags

An attribute as it is laid out: a type, a kind, a value or none, and three flags. The flags say whether the object
has the attribute, whether its value is kept back, and whether anything is known of it. They are independent of each
other and of the value, and so there are combinations of them that mean nothing.

Here the attributes are made and changed field by field, some of them by taking another one and replacing some of
its fields. That only the combinations come about which `Reading` has cases for is not built in. It is shown of what
a client can get hold of (`Flagged.Attribute.Obtained.exists_flagged`).
-/

namespace TokenClient.Flagged

mutual

/-- A typed attribute value. -/
inductive Value where
  | bool (value : Bool)
  | number (value : Code)
  | bytes (value : Bytes)
  | text (value : String)
  | date (value : Date)
  | mechanism (value : Code)
  | mechanisms (value : List Code)
  | template (value : Template)

/-- A typed attribute. -/
structure Attribute where
  type : Code
  kind : Kind
  stored : Option Value
  /-- Whether the object has the attribute. -/
  isPresent : Bool
  /-- Whether the token refuses to reveal the value. -/
  isSensitive : Bool
  /-- Whether anything is known of the attribute. -/
  isKnown : Bool

/-- An ordered list of attributes. -/
structure Template where
  attributes : List Attribute

end

instance : Inhabited Template := ⟨⟨[]⟩⟩

namespace Value

/-- The kind of a value. -/
def kind : Value → Kind
  | .bool _ => .bool
  | .number _ => .number
  | .bytes _ => .bytes
  | .text _ => .text
  | .date _ => .date
  | .mechanism _ => .mechanism
  | .mechanisms _ => .mechanisms
  | .template _ => .template

/-- A value brought to a kind, if it fits. -/
def coerce (kind : Kind) (value : Value) : Except Error Value :=
  match kind, value with
  | .number, .mechanism m => .ok (.number m)
  | .mechanism, .number n => .ok (.mechanism n)
  | .text, .bytes b =>
    match Text.Utf8.decode? b with
    | some cs => .ok (.text (String.ofList cs))
    | none => .error (.token Rv.attributeValueInvalid)
  | kind, value =>
    if value.kind = kind then .ok value else .error (.token Rv.attributeValueInvalid)

end Value

namespace Attribute

/-- The name of an attribute's type. -/
def name (a : Attribute) : String := AttributeType.name a.type

/-! ## Making and changing -/

/-- An attribute to be read, nothing about an object yet. -/
def make (type : Code) : Except Error Attribute := do
  return ⟨type, ← AttributeType.kindFor type none, none, false, false, true⟩

/-- An attribute with a value. -/
def withValue (type : Code) (value : Value) : Except Error Attribute := do
  let kind ← AttributeType.kindFor type (some value.kind)
  return ⟨type, kind, some (← value.coerce kind), true, false, true⟩

/-- The kind in which a value that comes from a token is read; bytes where there is none for the type. -/
def wireKind (type : Code) : Kind :=
  match AttributeType.kindFor type none with
  | .ok kind => kind
  | .error _ => .bytes

/-- An attribute of which the token told nothing. -/
def unknown (type : Code) : Attribute := ⟨type, wireKind type, none, false, false, false⟩

/-- An attribute that the object does not have: of one that is unknown it is known after all. -/
def absent (type : Code) : Attribute := { unknown type with isKnown := true }

/-- An attribute whose value the token does not reveal. -/
def sensitive (type : Code) : Attribute :=
  { unknown type with isPresent := true, isSensitive := true, isKnown := true }

/-- Gives an attribute a new value in place. One that has none yet and no kind of its own first takes the kind of
the value; then the value is stored, and the flags are written. -/
def setValue (value : Value) : Update Attribute Unit := do
  if (← get).stored.isNone && (AttributeType.kind? (← get).type).isNone then
    modify ({ · with kind := value.kind })
  let stored ← value.coerce (← get).kind
  modify ({ · with stored := some stored })
  modify ({ · with isPresent := true })
  modify ({ · with isSensitive := false })
  modify ({ · with isKnown := true })

/-- Replaces the number that an attribute stores, if it stores one. -/
def mapNumber (f : Code → Code) (a : Attribute) : Attribute :=
  match a.stored with
  | some (.number n) => { a with stored := some (.number (f n)) }
  | _ => a

mutual

/-- A stored value with the key types of the templates in it renumbered. -/
def mapStored (f : Code → Code) : Option Value → Option Value
  | some (.template ⟨as⟩) => some (.template ⟨mapKeyTypesAll f as⟩)
  | stored => stored

/-- An attribute with the key types in it renumbered: its own number if it is a key type, else those of
a template it holds. -/
def mapKeyTypes (f : Code → Code) : Attribute → Attribute
  | ⟨type, kind, stored, isPresent, isSensitive, isKnown⟩ =>
    if type = AttributeType.keyType then mapNumber f ⟨type, kind, stored, isPresent, isSensitive, isKnown⟩
    else ⟨type, kind, mapStored f stored, isPresent, isSensitive, isKnown⟩

/-- A list of attributes with the key types in them renumbered. -/
def mapKeyTypesAll (f : Code → Code) : List Attribute → List Attribute
  | [] => []
  | a :: as => mapKeyTypes f a :: mapKeyTypesAll f as

end

/-! ## Accessors -/

/-- The value of an attribute, or a failure if nothing is known of it. -/
def value (a : Attribute) : Except Error (Option Value) :=
  if a.isKnown then .ok a.stored else .error (.stateUnknown a.name)

/-- The value of an attribute as `pick` sees it; a value that it does not see is of another kind. -/
def read {α : Type} (pick : Value → Option α) (a : Attribute) : Except Error (Option α) :=
  match a.value with
  | .error e => .error e
  | .ok none => .ok none
  | .ok (some v) =>
    match pick v with
    | some x => .ok (some x)
    | none => .error (.token Rv.attributeTypeInvalid)

def bool? (a : Attribute) : Except Error (Option Bool) :=
  a.read fun
    | .bool b => some b
    | _ => none

/-- The value of a number or mechanism attribute. -/
def number? (a : Attribute) : Except Error (Option Code) :=
  a.read fun
    | .number n => some n
    | .mechanism m => some m
    | _ => none

def bytes? (a : Attribute) : Except Error (Option Bytes) :=
  a.read fun
    | .bytes b => some b
    | _ => none

def text? (a : Attribute) : Except Error (Option String) :=
  a.read fun
    | .text s => some s
    | _ => none

def date? (a : Attribute) : Except Error (Option Date) :=
  a.read fun
    | .date d => some d
    | _ => none

def mechanisms? (a : Attribute) : Except Error (Option (List Code)) :=
  a.read fun
    | .mechanisms ms => some ms
    | _ => none

def template? (a : Attribute) : Except Error (Option Template) :=
  a.read fun
    | .template t => some t
    | _ => none

/-- The value of a byte attribute as a natural number. -/
def bigNat? (a : Attribute) : Except Error (Option Nat) := a.bytes?.map (·.map BigNat.ofBytes)

end Attribute

/-! ## Templates -/

namespace Template

/-- The template without attributes. -/
def empty : Template := ⟨[]⟩

/-- A list of attributes with `a` in place of the first one of its type, or at the end. -/
def insertInto (a : Attribute) : List Attribute → List Attribute
  | [] => [a]
  | b :: as => if b.type = a.type then a :: as else b :: insertInto a as

/-- The template with an attribute added, or put in the place of the one of its type. -/
def insert (t : Template) (a : Attribute) : Template := ⟨insertInto a t.attributes⟩

/-- Updates the first attribute of a type where it stands in a list; nothing happens if there is none. -/
def updateIn (type : Code) (update : Update Attribute Unit) : Update (List Attribute) Unit
  | [] => (.ok (), [])
  | a :: as =>
    if a.type = type then ((update a).1, (update a).2 :: as)
    else ((updateIn type update as).1, a :: (updateIn type update as).2)

/-- Updates the attribute of a type where it stands. -/
def updateAt (type : Code) (update : Update Attribute Unit) : Update Template Unit := fun t =>
  ((updateIn type update t.attributes).1, ⟨(updateIn type update t.attributes).2⟩)

end Template

/-! ## The wire -/

mutual

/-- The wire form of a value. -/
def Value.toWire (encoding : Encoding) : Value → WireValue
  | .bool b => .bytes [if b then 1 else 0]
  | .number n => .bytes (Word.toBytes n)
  | .bytes b => .bytes b
  | .text s => .bytes (encoding.encode s)
  | .date d => .bytes d.toBytes
  | .mechanism m => .bytes (Word.toBytes m)
  | .mechanisms ms => .bytes (Word.arrayToBytes ms)
  | .template ⟨as⟩ => .nested (Attribute.allToWire encoding as)

/-- The wire form of an attribute. It goes by the value alone. -/
def Attribute.toWire (encoding : Encoding) : Attribute → WireAttribute
  | ⟨type, _, none, _, _, _⟩ => ⟨type, .null⟩
  | ⟨type, _, some v, _, _, _⟩ => ⟨type, v.toWire encoding⟩

/-- The wire form of a list of attributes, in order. -/
def Attribute.allToWire (encoding : Encoding) : List Attribute → List WireAttribute
  | [] => []
  | a :: as => a.toWire encoding :: Attribute.allToWire encoding as

end

/-- The value that bytes stand for in a kind, if they stand for any. -/
def Value.ofBytes (encoding : Encoding) (kind : Kind) (bytes : Bytes) : Except Error (Option Value) :=
  match kind with
  | .bool => .ok (some (.bool (bytes.any (· != 0))))
  | .number => if bytes.isEmpty then .ok none else (Word.ofBytes bytes).map fun n => some (.number n)
  | .mechanism => if bytes.isEmpty then .ok none else (Word.ofBytes bytes).map fun m => some (.mechanism m)
  | .bytes => .ok (some (.bytes bytes))
  | .text => .ok (some (.text (encoding.decode bytes)))
  | .date => (Date.ofBytes bytes).map (·.map .date)
  | .mechanisms => (Word.arrayOfBytes bytes).map fun ms => some (.mechanisms ms)
  | .template => if bytes.isEmpty then .ok (some (.template .empty)) else .error (.token Rv.attributeValueInvalid)

mutual

/-- The attribute that a wire attribute stands for. -/
def Attribute.ofWire (encoding : Encoding) : WireAttribute → Except Error Attribute
  | ⟨type, .null⟩ => .ok (.unknown type)
  | ⟨type, .bytes b⟩ =>
    (Value.ofBytes encoding (Attribute.wireKind type) b).map fun stored =>
      ⟨type, Attribute.wireKind type, stored, true, false, true⟩
  | ⟨type, .nested entries⟩ =>
    if Attribute.wireKind type = .template then
      (Template.ofWireOnto encoding .empty entries).map fun t =>
        ⟨type, Attribute.wireKind type, some (.template t), true, false, true⟩
    else .error (.token Rv.attributeValueInvalid)

/-- The template with the attributes of wire entries added in order; the first failure is its failure. -/
def Template.ofWireOnto (encoding : Encoding) (t : Template) : List WireAttribute → Except Error Template
  | [] => .ok t
  | entry :: entries =>
    match Attribute.ofWire encoding entry with
    | .error e => .error e
    | .ok a => Template.ofWireOnto encoding (t.insert a) entries

end

/-! ## Text -/

mutual

/-- The text of a value in an attribute of this type. -/
def Value.display (type : Code) : Value → String
  | .bool b => if b then "true" else "false"
  | .number n => numberText type n
  | .bytes b => String.ofList (Text.hexBytes b)
  | .text s => s
  | .date d => d.display
  | .mechanism m => MechanismType.name m
  | .mechanisms ms => "[" ++ String.intercalate ", " (ms.map MechanismType.name) ++ "]"
  | .template ⟨as⟩ => "\x7b" ++ String.intercalate "; " (Attribute.displays as) ++ "\x7d"

/-- The text of what an attribute of this type stores. -/
def Value.displayStored (type : Code) : Option Value → String
  | none => "<empty>"
  | some v => v.display type

/-- The text of an attribute. The flags are looked at one after the other, and then the value. -/
def Attribute.display : Attribute → String
  | ⟨type, _, stored, isPresent, isSensitive, isKnown⟩ =>
    AttributeType.name type ++ ": " ++
      if !isKnown then "<Value is not present or sensitive>"
      else if !isPresent then "<Attribute not present>"
      else if isSensitive then "<Value is sensitive>"
      else Value.displayStored type stored

/-- The texts of a list of attributes. -/
def Attribute.displays : List Attribute → List String
  | [] => []
  | a :: as => a.display :: Attribute.displays as

end

/-! ## Equality -/

mutual

/-- Whether two values are equal. -/
def Value.same : Value → Value → Bool
  | .bool a, .bool b => a == b
  | .number a, .number b => a == b
  | .bytes a, .bytes b => a == b
  | .text a, .text b => a == b
  | .date a, .date b => a == b
  | .mechanism a, .mechanism b => a == b
  | .mechanisms a, .mechanisms b => a == b
  | .template ⟨as⟩, .template ⟨bs⟩ => as.length == bs.length && Attribute.allIn bs as
  | _, _ => false

/-- Whether what two attributes store is equal. -/
def Value.sameStored : Option Value → Option Value → Bool
  | none, none => true
  | some v, some w => v.same w
  | _, _ => false

/-- Whether two attributes are equal. The flags are compared one after the other, and then the values. -/
def Attribute.same : Attribute → Attribute → Bool
  | ⟨type, _, stored, isPresent, isSensitive, isKnown⟩, b =>
    if type != b.type then false
    else if !isKnown || !b.isKnown then isKnown == b.isKnown
    else if !isPresent || !b.isPresent then isPresent == b.isPresent
    else isSensitive == b.isSensitive && Value.sameStored stored b.stored

/-- Whether each attribute equals the first one of its type in `bs`. -/
def Attribute.allIn (bs : List Attribute) : List Attribute → Bool
  | [] => true
  | a :: as =>
    (match bs.find? (·.type == a.type) with
      | some b => a.same b
      | none => false) && Attribute.allIn bs as

end

end TokenClient.Flagged
