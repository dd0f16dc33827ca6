import TokenClient.Room
import TokenClient.Session.Basic

/-!
# Objects, keys and random numbers

Calls on a session that the module answers on its own account. Templates and mechanisms go out in the
module's own numbering, PINs and names in its encoding; nothing of the session changes.
-/

namespace TokenClient

namespace Session

/-- The operation state, to be restored later. -/
def operationState (session : Session) : Action Bytes := session.forward .getOperationState

/-- Logs a user in under a name. -/
def loginUser (session : Session) (user : Code) (pin name : String) : Action Unit :=
  session.forward (.loginUser user (session.encoding.encode pin) (session.encoding.encode name))

/-- Logs the user out. -/
def logout (session : Session) : Action Unit := session.forward .logout

/-- Sets the user's first PIN. -/
def initPin (session : Session) (pin : String) : Action Unit :=
  session.forward (.initPin (session.encoding.encode pin))

/-- Replaces a PIN. -/
def setPin (session : Session) (oldPin newPin : String) : Action Unit :=
  session.forward (.setPin (session.encoding.encode oldPin) (session.encoding.encode newPin))

/-- Creates an object. -/
def createObject (session : Session) (template : Template) : Action Code :=
  session.forward (.createObject (session.wireTemplate template))

/-- Copies an object, with the attributes of a template in place of its own. -/
def copyObject (session : Session) (object : Code) (template : Template) : Action Code :=
  session.forward (.copyObject object (session.wireTemplate template))

/-- Destroys an object. -/
def destroyObject (session : Session) (object : Code) : Action Unit :=
  session.forward (.destroyObject object)

/-- How much room an object takes. -/
def objectSize (session : Session) (object : Code) : Action Code :=
  session.forward (.getObjectSize object)

/-- Writes attributes of an object. -/
def setAttributes (session : Session) (object : Code) (template : Template) : Action Unit :=
  session.forward (.setAttributeValue object (session.wireTemplate template))

/-- Makes a key. -/
def generateKey (session : Session) (mechanism : Mechanism) (template : Template) : Action Code :=
  session.forward (.generateKey (session.wireMechanism mechanism) (session.wireTemplate template))

/-- Makes a pair of keys, the public one first. -/
def generateKeyPair (session : Session) (mechanism : Mechanism)
    (publicTemplate privateTemplate : Template) : Action (Code × Code) :=
  session.forward (.generateKeyPair (session.wireMechanism mechanism)
    (session.wireTemplate publicTemplate) (session.wireTemplate privateTemplate))

/-- Wraps a key under another one. -/
def wrapKey (session : Session) (mechanism : Mechanism) (wrappingKey key : Code) : Action Bytes :=
  session.forward (.wrapKey (session.wireMechanism mechanism) wrappingKey key)

/-- Makes a key from its wrapped form. -/
def unwrapKey (session : Session) (mechanism : Mechanism) (unwrappingKey : Code) (wrapped : Bytes)
    (template : Template) : Action Code :=
  session.forward (.unwrapKey (session.wireMechanism mechanism) unwrappingKey wrapped
    (session.wireTemplate template))

/-- Derives a key from another one. -/
def deriveKey (session : Session) (mechanism : Mechanism) (baseKey : Code) (template : Template) :
    Action Code :=
  session.forward (.deriveKey (session.wireMechanism mechanism) baseKey (session.wireTemplate template))

/-- Mixes a seed into the token's random numbers. -/
def seedRandom (session : Session) (seed : Bytes) : Action Unit := session.forward (.seedRandom seed)

/-- Random bytes, as many as asked for. The buffer for them is set up before the module is asked. -/
def randomBytes (session : Session) (length : UInt64) : Action (Attempt Bytes) :=
  match session.openHandle with
  | .error e => session.refuse e
  | .ok handle =>
    if HasRoom 1 length.toNat then
      (Program.request (.inSession handle (.generateRandom length))).map fun result =>
        (result.map fun bytes => some (Bytes.fit length.toNat bytes), session)
    else .done (.ok none, session)

/-- Asks about a function that runs in parallel. No module has any. -/
def functionStatus (session : Session) : Action Unit := session.forward .getFunctionStatus

/-- Cancels a function that runs in parallel. No module has any. -/
def cancelFunction (session : Session) : Action Unit := session.forward .cancelFunction

end Session

end TokenClient
