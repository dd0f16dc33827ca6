import TokenClient.Module.Name
import TokenClient.Module.Program
import TokenClient.SoftToken.Catalog
import TokenClient.SoftToken.State

/-!
# How the token in memory answers

Every call is answered from the state alone, so that the token is a `Module`. Where a call has several
faults, the mechanism is looked at first, then the key, then the session. The mechanism is noted before it
is looked at.
-/

namespace TokenClient.SoftToken

variable {α : Type}

/-- Answers a call from a session and changes nothing. -/
def inspect (token : SoftToken) (handle : Code) (f : OpenSession → Except Error α) :
    Except Error α × SoftToken :=
  (token.session handle >>= f, token)

/-- Answers a call from a session, and the session changes. -/
def update (token : SoftToken) (handle : Code) (f : OpenSession → Except Error α × OpenSession) :
    Except Error α × SoftToken :=
  match token.session handle with
  | .error e => (.error e, token)
  | .ok session =>
    let (result, session) := f session
    (result, token.withSession handle session)

/-- Opens a session. -/
def openSession (token : SoftToken) (slot flags : Code) : Except Error Code × SoftToken :=
  if slot ≠ tokenSlot then (.error (.token Rv.slotIdInvalid), token)
  else if !flags.meets Flag.serialSession then (.error (.token Rv.sessionParallelNotSupported), token)
  else
    let (handle, token) := token.enterSession (.fresh (flags.meets Flag.rwSession))
    (.ok handle, token)

/-- Closes a session. -/
def closeSession (token : SoftToken) (handle : Code) : Except Error Unit × SoftToken :=
  ((token.session handle).map fun _ => (), { token with sessions := token.sessions.erase handle })

/-- The state of a session as the standard numbers it: public or of the user, and whether it may change
token objects. -/
def sessionState (isRw isLoggedIn : Bool) : Code :=
  match isRw, isLoggedIn with
  | false, false => 0
  | false, true => 1
  | true, false => 2
  | true, true => 3

/-- A session's description. -/
def sessionInfo (token : SoftToken) (session : OpenSession) : SessionInfo where
  slot := tokenSlot
  state := sessionState session.isRw token.isLoggedIn
  flags := if session.isRw then Flag.serialSession ||| Flag.rwSession else Flag.serialSession
  deviceError := 0

/-- Logs the user in. -/
def login (token : SoftToken) (handle user : Code) (pin : Bytes) : Except Error Unit × SoftToken :=
  match token.session handle with
  | .error e => (.error e, token)
  | .ok _ =>
    if user ≠ normalUser then (.error (.token Rv.userTypeInvalid), token)
    else if token.isLoggedIn then (.error (.token Rv.userAlreadyLoggedIn), token)
    else if pin ≠ userPin then (.error (.token Rv.pinIncorrect), token)
    else (.ok (), { token with isLoggedIn := true })

/-- Logs the user out. -/
def logout (token : SoftToken) (handle : Code) : Except Error Unit × SoftToken :=
  match token.session handle with
  | .error e => (.error e, token)
  | .ok _ =>
    if token.isLoggedIn then (.ok (), { token with isLoggedIn := false })
    else (.error (.token Rv.userNotLoggedIn), token)

/-- Makes an object from a template. -/
def createObject (token : SoftToken) (handle : Code) (template : List WireAttribute) :
    Except Error Code × SoftToken :=
  match token.session handle with
  | .error e => (.error e, token)
  | .ok session =>
    if session.isRw then
      let (object, token) := token.enterObject template
      (.ok object, token)
    else (.error (.token Rv.sessionReadOnly), token)

/-- Makes an object from the attributes of another one and those of a template. -/
def copyObject (token : SoftToken) (handle source : Code) (template : List WireAttribute) :
    Except Error Code × SoftToken :=
  match token.session handle >>= fun _ => token.object source with
  | .error e => (.error e, token)
  | .ok object =>
    let (copy, token) := token.enterObject (object.attributes ++ template)
    (.ok copy, token)

/-- Destroys an object. -/
def destroyObject (token : SoftToken) (handle object : Code) : Except Error Unit × SoftToken :=
  match token.session handle >>= fun _ => token.object object with
  | .error e => (.error e, token)
  | .ok _ => (.ok (), { token with objects := token.objects.erase object })

/-- Writes attributes of an object. -/
def setAttributes (token : SoftToken) (handle object : Code) (template : List WireAttribute) :
    Except Error Unit × SoftToken :=
  match token.session handle >>= fun _ => token.object object with
  | .error e => (.error e, token)
  | .ok stored =>
    (.ok (), { token with objects := token.objects.replace object (stored.write template) })

/-- Reads attributes of an object. The result is the first failure; the values that could be read are
filled in beside it, or none at all if the token is strict and more than one was asked for. -/
def readAttributes (token : SoftToken) (handle object : Code) (types : List Code) :
    Except Error Unit × List WireValue :=
  match token.session handle >>= fun _ => token.object object with
  | .error e => (.error e, [])
  | .ok stored =>
    let outcomes := types.map (token.readType stored)
    let values := outcomes.map fun
      | .ok value => value
      | .error _ => WireValue.null
    match firstFailure outcomes with
    | none => (.ok (), values)
    | some rv => (.error (.token rv), if token.strictBatch && 1 < types.length then [] else values)

/-- Starts a search. -/
def startFind (token : SoftToken) (handle : Code) (template : List WireAttribute) :
    Except Error Unit × SoftToken :=
  token.update handle fun session =>
    match session.find with
    | some _ => (.error (.token Rv.operationActive), session)
    | none => (.ok (), { session with find := some (token.findMatches template) })

/-- The handles that a search gives next out of those it has yet to give, and those that remain. -/
def nextBatch (token : SoftToken) (pending : List Code) (max : Nat) : List Code × List Code :=
  if token.stuckFind then (pending.take 1, pending)
  else
    let batch := pending.take max
    (if token.repeatFind then batch ++ batch.take 1 else batch, pending.drop max)

/-- Gives handles of a search. A failure set beforehand is spent, even if it does not come out. -/
def find (token : SoftToken) (handle : Code) (max : UInt64) : Except Error (List Code) × SoftToken :=
  let failure := token.findError
  { token with findError := none }.update handle fun session =>
    match session.find with
    | none => (.error notInitialized, session)
    | some pending =>
      match failure with
      | some rv => (.error (.token rv), session)
      | none =>
        let (batch, rest) := token.nextBatch pending max.toNat
        (.ok batch, { session with find := some rest })

/-- Ends a search. -/
def endFind (token : SoftToken) (handle : Code) : Except Error Unit × SoftToken :=
  token.update handle fun session =>
    match session.find with
    | some _ => (.ok (), { session with find := none })
    | none => (.error notInitialized, session)

/-- The token after a mechanism is asked for, and whether it has it. -/
def admitMechanism (token : SoftToken) (mechanism : Mechanism) : Except Error Unit × SoftToken :=
  (if mechanism.code ∈ mechanismCodes then .ok () else .error (.token Rv.mechanismInvalid),
    { token with lastMechanism := mechanism.code })

/-- The byte of the key that a start names, zero if it names none. -/
def startKey (token : SoftToken) (start : Start) : Except Error UInt8 :=
  match start.key? with
  | some key => token.keyByte key
  | none => .ok 0

/-- Starts an operation. -/
def start (token : SoftToken) (handle : Code) (start : Start) (mechanism : Mechanism) :
    Except Error Unit × SoftToken :=
  let (admitted, token) := token.admitMechanism mechanism
  match admitted >>= fun () => token.startKey start with
  | .error e => (.error e, token)
  | .ok key => token.update handle fun session => (.ok (), session.start key start.operation)

/-- The value of the key that a step digests, empty for other steps. -/
def digestedKey (token : SoftToken) : Step → Except Error Bytes
  | .digestKey key => token.keyValue key
  | _ => .ok []

/-- Takes a step of an operation. -/
def step (token : SoftToken) (handle : Code) (step : Step) : Except Error step.Result × SoftToken :=
  match token.digestedKey step with
  | .error e => (.error e, token)
  | .ok keyValue => token.update handle fun session => session.step keyValue step

/-- Takes a step of a message operation. -/
def message (token : SoftToken) (handle : Code) (step : MessageStep) :
    (Except Error step.Result × step.Written) × SoftToken :=
  match token.session handle with
  | .error e => ((.error e, step.untouched), token)
  | .ok session =>
    let (answer, session) := session.messageStep step
    (answer, token.withSession handle session)

/-- The value of every key that the token makes. -/
def generatedValue : WireAttribute := ⟨AttributeType.value, .bytes (List.replicate 16 0x5A)⟩

/-- Makes a key. -/
def generateKey (token : SoftToken) (handle : Code) (mechanism : Mechanism)
    (template : List WireAttribute) : Except Error Code × SoftToken :=
  let (admitted, token) := token.admitMechanism mechanism
  match admitted >>= fun () => token.session handle with
  | .error e => (.error e, token)
  | .ok _ =>
    let (key, token) := token.enterObject (template ++ [generatedValue])
    (.ok key, token)

/-- Makes a pair of keys. -/
def generateKeyPair (token : SoftToken) (handle : Code) (mechanism : Mechanism)
    (publicTemplate privateTemplate : List WireAttribute) : Except Error (Code × Code) × SoftToken :=
  let (admitted, token) := token.admitMechanism mechanism
  match admitted >>= fun () => token.session handle with
  | .error e => (.error e, token)
  | .ok _ =>
    let (publicKey, token) := token.enterObject publicTemplate
    let (privateKey, token) := token.enterObject privateTemplate
    (.ok (publicKey, privateKey), token)

/-- The bytes that pass for random ones. -/
def randomBytes (length : Nat) : Bytes := (List.range length).map fun i => UInt8.ofNat i * 7 + 3

/-- Whether the token answers a command itself. -/
def implements : Command → Bool
  | .initPin _ | .setPin _ _ | .loginUser _ _ _ => false
  | .start (.signRecover _) _ | .start (.verifyRecover _) _ => false
  | .step (.signRecover _) | .step (.verifyRecover _) => false
  | .wrapKey _ _ _ | .unwrapKey _ _ _ _ | .deriveKey _ _ _ | .seedRandom _ => false
  | .getFunctionStatus | .cancelFunction => false
  | _ => true

/-- A result without anything written beside it, as a reply to a command that writes nothing. -/
def plainly {β : Type} (reply : Except Error α → β) (answer : Except Error α × SoftToken) :
    β × SoftToken :=
  (reply answer.1, answer.2)

/-- Answers a command. -/
def command (token : SoftToken) (handle : Code) :
    (command : Command) → Reply (.inSession handle command) × SoftToken
  | .closeSession => plainly (⟨·, ()⟩) (token.closeSession handle)
  | .getSessionInfo =>
    plainly (⟨·, ()⟩) (token.inspect handle fun session => .ok (token.sessionInfo session))
  | .sessionCancel flags =>
    plainly (⟨·, ()⟩) (token.update handle fun session => (.ok (), session.cancel flags))
  | .getOperationState =>
    plainly (⟨·, ()⟩) (token.inspect handle fun session =>
      match session.digest with
      | some fed => .ok fed
      | none => .error notInitialized)
  | .setOperationState state _ _ =>
    plainly (⟨·, ()⟩) (token.update handle fun session =>
      (.ok (), { session with digest := some state }))
  | .login user pin => plainly (⟨·, ()⟩) (token.login handle user pin)
  | .logout => plainly (⟨·, ()⟩) (token.logout handle)
  | .createObject template => plainly (⟨·, ()⟩) (token.createObject handle template)
  | .copyObject object template => plainly (⟨·, ()⟩) (token.copyObject handle object template)
  | .destroyObject object => plainly (⟨·, ()⟩) (token.destroyObject handle object)
  | .getObjectSize object =>
    plainly (⟨·, ()⟩) (token.inspect handle fun _ =>
      (token.object object).map fun stored => UInt64.ofNat stored.size)
  | .getAttributeValue object types =>
    let (result, values) := token.readAttributes handle object types
    (⟨result, values⟩, token)
  | .setAttributeValue object template =>
    plainly (⟨·, ()⟩) (token.setAttributes handle object template)
  | .findObjectsInit template => plainly (⟨·, ()⟩) (token.startFind handle template)
  | .findObjects max => plainly (⟨·, ()⟩) (token.find handle max)
  | .findObjectsFinal => plainly (⟨·, ()⟩) (token.endFind handle)
  | .start start mechanism => plainly (⟨·, ()⟩) (token.start handle start mechanism)
  | .step step => plainly (⟨·, ()⟩) (token.step handle step)
  | .message step =>
    let ((result, written), token) := token.message handle step
    (⟨result, written⟩, token)
  | .generateKey mechanism template =>
    plainly (⟨·, ()⟩) (token.generateKey handle mechanism template)
  | .generateKeyPair mechanism publicTemplate privateTemplate =>
    plainly (⟨·, ()⟩) (token.generateKeyPair handle mechanism publicTemplate privateTemplate)
  | .generateRandom length =>
    plainly (⟨·, ()⟩) (token.inspect handle fun _ => .ok (randomBytes length.toNat))
  | command => (.refuse _ (Call.unsupported (.inSession handle command)), token)

/-- Answers a call. Calls that do not concern a session, and those that the token leaves out, are not
counted. -/
def answer (token : SoftToken) : (call : Call) → Reply call × SoftToken
  | .getInfo => (⟨.ok moduleInfo, ()⟩, token)
  | .getSlotList tokenPresent => (⟨.ok (slots tokenPresent), ()⟩, token)
  | .getSlotInfo slot => (⟨slotInfo slot, ()⟩, token)
  | .getTokenInfo slot => (⟨tokenInfo slot, ()⟩, token)
  | .getMechanismList slot => (⟨mechanismList slot, ()⟩, token)
  | .getMechanismInfo _ mechanism => (⟨mechanismInfo mechanism, ()⟩, token)
  | .openSession slot flags =>
    plainly (⟨·, ()⟩) ((token.count (Call.name (.openSession slot flags))).openSession slot flags)
  | .closeAllSessions slot =>
    (⟨.ok (), ()⟩, { token.count (Call.name (.closeAllSessions slot)) with sessions := [] })
  | .inSession handle command =>
    if implements command then (token.count command.name).command handle command
    else (.refuse _ (Call.unsupported (.inSession handle command)), token)

/-- The token as a module. -/
def module : Module SoftToken := ⟨fun call token => token.answer call⟩

end TokenClient.SoftToken
