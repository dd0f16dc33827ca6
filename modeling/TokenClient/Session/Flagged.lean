import TokenClient.Attribute.Flagged
import TokenClient.Session.Reading

/-!
# Reading attributes by their flags

What a session reads of an object, with attributes as they are laid out. Where attributes are read one by one, each
goes into the template as it comes, and where a read fails an unknown attribute does. The first failure is kept until
all have been read, and then it is the answer.
-/

namespace TokenClient.Flagged

/-- What a filled entry says: key types are in generic codes. -/
def readEntry (session : Session) (entry : WireAttribute) : Except Error Attribute :=
  (Attribute.ofWire session.encoding entry).map (·.mapKeyTypes session.codes.keyTypeToGeneric)

/-- Reads a single attribute under an open handle. -/
def readOne (session : Session) (handle object : Code) (absence : Absence) (type : Code) :
    Program (Except Error Attribute) :=
  .ask (.inSession handle (.getAttributeValue object [type])) fun reply =>
    match reply.result with
    | .ok () => .done (readEntry session ⟨type, reply.written.headD .null⟩)
    | .error e =>
      if absence.says e.rv then .done (.ok (.absent type))
      else if e.rv = Rv.attributeSensitive then .done (.ok (.sensitive type))
      else .done (.error e)

/-- Reads an attribute of an object. -/
def readAttribute (session : Session) (object type : Code) : Session.Action Attribute :=
  match session.openHandle with
  | .error e => session.refuse e
  | .ok handle => (readOne session handle object .strict type).map fun outcome => (outcome, session)

/-- Adds what filled entries say to a template, up to the first failure. -/
def addEntries (session : Session) (t : Template) : List WireAttribute → Except Error Template
  | [] => .ok t
  | entry :: entries => do addEntries session (t.insert (← readEntry session entry)) entries

/-- Reads attributes one after the other under an open handle into a template. A failure is kept, if it is the
first one. -/
def readInto (session : Session) (handle object : Code) (t : Template) (failure : Option Error) :
    List Code → Program (Except Error Template)
  | [] =>
    match failure with
    | some e => .done (.error e)
    | none => .done (.ok t)
  | type :: types =>
    (readOne session handle object .lenient type).bind fun
      | .ok a => readInto session handle object (t.insert a) failure types
      | .error e => readInto session handle object (t.insert (.unknown type)) (failure <|> some e) types

/-- Reads several attributes of an object: all of them in one call, and if that fails one by one. -/
def readAttributes (session : Session) (object : Code) (types : List Code) : Session.Action Template :=
  match session.openHandle with
  | .error e => session.refuse e
  | .ok handle =>
    .ask (.inSession handle (.getAttributeValue object types)) fun reply =>
      match reply.result with
      | .ok () => .done (addEntries session .empty (WireAttribute.filled types reply.written), session)
      | .error _ =>
        (readInto session handle object .empty none types).map fun result => (result, session)

end TokenClient.Flagged
