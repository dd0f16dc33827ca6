import TokenClient.Session.Basic

/-!
# Reading attributes

A module answers a read with the values it fills in, or with one return value for all of them. So one
attribute that is absent or hidden makes a read of many fail, and each is then read on its own
(`Session.readAttributes`). For a single attribute three outcomes are not failures: it was filled in, it is
absent, or it is hidden. Some modules answer with a generic failure for a type they do not know; in a
series of reads that means absent too (`Absence.lenient`).
-/

namespace TokenClient

/-- Which answers to a read say that an attribute is absent. -/
inductive Absence where
  /-- Only that the type is invalid. -/
  | strict
  /-- Also the generic failures. -/
  | lenient
deriving DecidableEq, Repr

/-- Whether an answer says that the attribute is absent. -/
def Absence.says : Absence → Code → Bool
  | strict, rv => rv = Rv.attributeTypeInvalid
  | lenient, rv =>
    rv = Rv.attributeTypeInvalid || rv = Rv.argumentsBad || rv = Rv.functionFailed ||
      rv = Rv.functionRejected

/-- The entries of a read after the module has filled in values, from the first entry on. -/
def WireAttribute.filled : List Code → List WireValue → List WireAttribute
  | [], _ => []
  | type :: types, [] => query type :: filled types []
  | type :: types, value :: values => ⟨type, value⟩ :: filled types values

/-- The template of a list of attributes, or the first failure among them. -/
def Template.assemble (outcomes : List (Except Error Attribute)) : Except Error Template :=
  outcomes.foldlM (fun template outcome => outcome.map template.insert) .empty

namespace Session

/-- What a filled entry says: key types are in generic codes. -/
def readEntry (session : Session) (entry : WireAttribute) : Except Error Attribute :=
  (Attribute.ofWire session.encoding entry).map (·.mapKeyTypes session.codes.keyTypeToGeneric)

/-- What the answer to the read of a single attribute says of it. -/
def readAnswer (session : Session) (absence : Absence) (type : Code)
    (result : Except Error Unit) (values : List WireValue) : Except Error Attribute :=
  match result with
  | .ok () => session.readEntry ⟨type, values.headD .null⟩
  | .error e =>
    if absence.says e.rv then .ok (Attribute.absent type)
    else if e.rv = Rv.attributeSensitive then .ok (Attribute.sensitive type)
    else .error e

/-- Reads a single attribute under an open handle. -/
def readOne (session : Session) (handle object : Code) (absence : Absence) (type : Code) :
    Program (Except Error Attribute) :=
  .ask (.inSession handle (.getAttributeValue object [type])) fun reply =>
    .done (session.readAnswer absence type reply.result reply.written)

/-- Reads attributes one after the other under an open handle. -/
def readEach (session : Session) (handle object : Code) :
    List Code → Program (List (Except Error Attribute))
  | [] => .done []
  | type :: types =>
    (session.readOne handle object .lenient type).bind fun outcome =>
      (session.readEach handle object types).map fun outcomes => outcome :: outcomes

/-- Reads an attribute of an object. -/
def readAttribute (session : Session) (object type : Code) : Action Attribute :=
  match session.openHandle with
  | .error e => session.refuse e
  | .ok handle => (session.readOne handle object .strict type).map fun outcome => (outcome, session)

/-- Reads several attributes of an object: all of them in one call, and if that fails one by one. Every
type is then tried, and the first failure is the answer. -/
def readAttributes (session : Session) (object : Code) (types : List Code) : Action Template :=
  match session.openHandle with
  | .error e => session.refuse e
  | .ok handle =>
    .ask (.inSession handle (.getAttributeValue object types)) fun reply =>
      match reply.result with
      | .ok () =>
        let outcomes := (WireAttribute.filled types reply.written).map session.readEntry
        .done (Template.assemble outcomes, session)
      | .error _ =>
        (session.readEach handle object types).map fun outcomes =>
          (Template.assemble outcomes, session)

/-- Reads what an accessor finds in an attribute of an object. -/
def valueOf {α : Type} (accessor : Attribute → Except Error (Option α)) (session : Session)
    (object type : Code) : Action (Option α) :=
  (session.readAttribute object type).map fun (result, session) => (result.bind accessor, session)

/-- Reads what an accessor finds in several attributes of an object, in the order asked. -/
def valuesOf {α : Type} (accessor : Template → Code → Except Error (Option α)) (session : Session)
    (object : Code) (types : List Code) : Action (List (Option α)) :=
  (session.readAttributes object types).map fun (result, session) =>
    (result.bind fun template => types.mapM (accessor template), session)

end Session

end TokenClient
