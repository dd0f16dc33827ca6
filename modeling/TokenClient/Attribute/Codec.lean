import TokenClient.Template
import TokenClient.Text.Encoding
import TokenClient.Wire
import TokenClient.Word

/-!
# Attributes to the wire and back

Writing is a plain recursion over values. Reading goes by the kind that the table gives for a type, not
by the bytes: a number of up to eight bytes, a truth value of any bytes, a date or no date, a text in the
given encoding, a nested list for a template. An entry without a value is one that the token did not
fill, so nothing is known of it.
-/

namespace TokenClient

mutual

/-- The wire form of a value. -/
def Value.toWire (encoding : Encoding) : Value → WireValue
  | .bool b => .bytes [if b then 1 else 0]
  | .number n => .bytes (Word.toBytes n)
  | .bytes b => .bytes b
  | .text s => .bytes (encoding.encode s)
  | .date d => .bytes d.toBytes
  | .mechanism m => .bytes (Word.toBytes m)
  | .mechanisms ms => .bytes (Word.arrayToBytes ms)
  | .template ⟨as⟩ => .nested (Attribute.allToWire encoding as)

/-- The wire form of a reading; without a value there is none. -/
def Reading.toWire (encoding : Encoding) : Reading → WireValue
  | .unknown | .absent | .sensitive | .empty => .null
  | .held v => v.toWire encoding

/-- The wire form of an attribute. -/
def Attribute.toWire (encoding : Encoding) : Attribute → WireAttribute
  | ⟨type, _, reading⟩ => ⟨type, reading.toWire encoding⟩

/-- The wire form of a list of attributes, in order. -/
def Attribute.allToWire (encoding : Encoding) : List Attribute → List WireAttribute
  | [] => []
  | a :: as => a.toWire encoding :: Attribute.allToWire encoding as

end

/-- The wire form of a template, in order. -/
def Template.toWire (encoding : Encoding) (t : Template) : List WireAttribute :=
  Attribute.allToWire encoding t.attributes

/-- What bytes say of an attribute that stores a kind. Zero bytes are no number, and a template is only
ever written as zero bytes if it is empty. -/
def Reading.ofBytes (encoding : Encoding) (kind : Kind) (bytes : Bytes) : Except Error Reading :=
  match kind with
  | .bool => .ok (.held (.bool (bytes.any (· != 0))))
  | .number =>
    if bytes.isEmpty then .ok .empty else (Word.ofBytes bytes).map fun n => .held (.number n)
  | .mechanism =>
    if bytes.isEmpty then .ok .empty else (Word.ofBytes bytes).map fun m => .held (.mechanism m)
  | .bytes => .ok (.held (.bytes bytes))
  | .text => .ok (.held (.text (encoding.decode bytes)))
  | .date =>
    (Date.ofBytes bytes).map fun
      | some d => .held (.date d)
      | none => .empty
  | .mechanisms => (Word.arrayOfBytes bytes).map fun ms => .held (.mechanisms ms)
  | .template =>
    if bytes.isEmpty then .ok (.held (.template .empty))
    else .error (.token Rv.attributeValueInvalid)

mutual

/-- What a wire value says of an attribute that stores a kind. -/
def Reading.ofWire (encoding : Encoding) (kind : Kind) : WireValue → Except Error Reading
  | .null => .ok .unknown
  | .bytes b => Reading.ofBytes encoding kind b
  | .nested entries =>
    if kind = .template then
      (Template.ofWireOnto encoding .empty entries).map fun t => .held (.template t)
    else .error (.token Rv.attributeValueInvalid)

/-- The attribute that a wire attribute stands for. -/
def Attribute.ofWire (encoding : Encoding) : WireAttribute → Except Error Attribute
  | ⟨type, value⟩ =>
    (Reading.ofWire encoding (Attribute.wireKind type) value).map fun reading =>
      ⟨type, Attribute.wireKind type, reading⟩

/-- The template with the attributes of wire entries added in order; the first failure is its failure. -/
def Template.ofWireOnto (encoding : Encoding) (t : Template) :
    List WireAttribute → Except Error Template
  | [] => .ok t
  | entry :: entries =>
    match Attribute.ofWire encoding entry with
    | .error e => .error e
    | .ok a => Template.ofWireOnto encoding (t.insert a) entries

end

/-- The template that a list of wire attributes stands for. -/
def Template.ofWire (encoding : Encoding) (entries : List WireAttribute) : Except Error Template :=
  Template.ofWireOnto encoding .empty entries

end TokenClient
