import TokenClient.SoftToken.OpenSession
import TokenClient.SoftToken.Registry
import TokenClient.SoftToken.StoredObject

/-!
# The state of the token in memory

Sessions and objects take their handles from one counter. Beside them the token keeps who is logged in,
what it was asked, and switches that make it misbehave: a search that repeats itself, an attribute that
cannot be read, a read of many attributes that fills in nothing if one of them fails.
-/

namespace TokenClient

open SoftToken

/-- A token that lives in memory, with the module around it. -/
structure SoftToken where
  /-- The handle that was given out last. -/
  lastHandle : Code
  sessions : Registry OpenSession
  objects : Registry StoredObject
  isLoggedIn : Bool
  /-- The standard names of the calls so far that concern a session, the latest one first. -/
  calls : List String
  /-- Whether a read of several attributes fills in nothing if one of them fails. -/
  strictBatch : Bool
  /-- Types that cannot be read, with the return value of an attempt. The first entry for a type counts. -/
  failing : List (Code × Code)
  /-- Whether a search gives the first handle of a batch once more at its end. -/
  repeatFind : Bool
  /-- Whether a search gives the first handle over and over. -/
  stuckFind : Bool
  /-- What the next call for handles fails with. -/
  findError : Option Code
  /-- The mechanism that was asked for last. -/
  lastMechanism : Code

namespace SoftToken

/-- The token as it comes. -/
def new : SoftToken where
  lastHandle := 0
  sessions := []
  objects := []
  isLoggedIn := false
  calls := []
  strictBatch := false
  failing := []
  repeatFind := false
  stuckFind := false
  findError := none
  lastMechanism := 0

variable {α : Type}

/-- How often a call was made. -/
def callCount (token : SoftToken) (name : String) : Nat := token.calls.count name

/-- The token with a call counted. -/
def count (token : SoftToken) (name : String) : SoftToken := { token with calls := name :: token.calls }

/-- A session, an error if there is none under the handle. -/
def session (token : SoftToken) (handle : Code) : Except Error OpenSession :=
  match token.sessions.get? handle with
  | some session => .ok session
  | none => .error (.token Rv.sessionHandleInvalid)

/-- An object, an error if there is none under the handle. -/
def object (token : SoftToken) (handle : Code) : Except Error StoredObject :=
  match token.objects.get? handle with
  | some object => .ok object
  | none => .error (.token Rv.objectHandleInvalid)

/-- The token with a session changed. -/
def withSession (token : SoftToken) (handle : Code) (session : OpenSession) : SoftToken :=
  { token with sessions := token.sessions.replace handle session }

/-- A new session, and its handle. -/
def enterSession (token : SoftToken) (session : OpenSession) : Code × SoftToken :=
  let handle := token.lastHandle + 1
  (handle, { token with lastHandle := handle, sessions := token.sessions.enter handle session })

/-- A new object, and its handle. -/
def enterObject (token : SoftToken) (template : List WireAttribute) : Code × SoftToken :=
  let handle := token.lastHandle + 1
  (handle, { token with lastHandle := handle, objects := token.objects.enter handle (.make template) })

/-- The byte of a key that the mechanisms work with: the first one of its value. -/
def keyByte (token : SoftToken) (key : Code) : Except Error UInt8 :=
  match token.objects.get? key with
  | none => .error (.token Rv.keyHandleInvalid)
  | some object =>
    match object.get? AttributeType.value with
    | some (.bytes (b :: _)) => .ok b
    | _ => .error (.token Rv.keyTypeInconsistent)

/-- The whole value of a key. -/
def keyValue (token : SoftToken) (key : Code) : Except Error Bytes :=
  match (token.objects.get? key).bind (·.get? AttributeType.value) with
  | some (.bytes b) => .ok b
  | _ => .error (.token Rv.keyHandleInvalid)

/-- What is read of an attribute of an object: its value, or the return value of the attempt. -/
def readType (token : SoftToken) (object : StoredObject) (type : Code) : Except Code WireValue :=
  match token.failing.lookup type with
  | some rv => .error rv
  | none =>
    if object.hidesValue && type == AttributeType.value then .error Rv.attributeSensitive
    else
      match object.get? type with
      | some value => .ok value
      | none => .error Rv.attributeTypeInvalid

/-- The token with a type that cannot be read. -/
def failType (token : SoftToken) (type rv : Code) : SoftToken :=
  { token with failing := (type, rv) :: token.failing }

/-- The first return value of a list of attempts that is a failure. -/
def firstFailure (outcomes : List (Except Code WireValue)) : Option Code :=
  outcomes.findSome? fun
    | .ok _ => none
    | .error rv => if rv = Rv.ok then none else some rv

/-- The handles of the objects that match a template, in order. -/
def findMatches (token : SoftToken) (template : List WireAttribute) : List Code :=
  Registry.handles (token.objects.filter fun entry => entry.2.isMatch template)

end SoftToken

end TokenClient
