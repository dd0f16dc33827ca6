import TokenClient.Session.Objects
import TokenClient.Session.Operations
import TokenClient.Session.Reading
import TokenClient.Session.Search

/-!
# Requests to a session

Every call on a session as a value, with what it yields, so that one can speak of all calls and of runs of
them. `Session.perform` carries a request out, and a session changes in no other way.
-/

namespace TokenClient

/-- A call on a session. -/
inductive Request where
  | handle
  | close
  | info
  | isRw
  | operationState
  | setOperationState (state : Bytes) (encryptionKey authenticationKey : Code)
  | login (user : Code) (pin : String)
  | loginUser (user : Code) (pin name : String)
  | logout
  | initPin (pin : String)
  | setPin (oldPin newPin : String)
  | createObject (template : Template)
  | copyObject (object : Code) (template : Template)
  | destroyObject (object : Code)
  | objectSize (object : Code)
  | setAttributes (object : Code) (template : Template)
  | readAttribute (object type : Code)
  | readAttributes (object : Code) (types : List Code)
  | readBool (object type : Code)
  | readNumber (object type : Code)
  | readBytes (object type : Code)
  | readText (object type : Code)
  | readBigNat (object type : Code)
  | readNumbers (object : Code) (types : List Code)
  | readBytesList (object : Code) (types : List Code)
  | readTexts (object : Code) (types : List Code)
  | startFind (template : Template)
  | find (max : UInt64)
  | endFind
  | findAll (template : Template)
  | generateKey (mechanism : Mechanism) (template : Template)
  | generateKeyPair (mechanism : Mechanism) (publicTemplate privateTemplate : Template)
  | wrapKey (mechanism : Mechanism) (wrappingKey key : Code)
  | unwrapKey (mechanism : Mechanism) (unwrappingKey : Code) (wrapped : Bytes) (template : Template)
  | deriveKey (mechanism : Mechanism) (baseKey : Code) (template : Template)
  | seedRandom (seed : Bytes)
  | randomBytes (length : UInt64)
  | start (start : Start) (mechanism : Mechanism)
  | step (step : Step)
  | message (step : MessageStep)
  | cancel (flags : Code)
  | functionStatus
  | cancelFunction

namespace Request

/-- The kind of value that a request yields. -/
@[reducible]
def yield : Request → Yield
  | handle | objectSize _ | createObject _ | copyObject _ _ => .code
  | generateKey _ _ | unwrapKey _ _ _ _ | deriveKey _ _ _ => .code
  | close | setOperationState _ _ _ | login _ _ | loginUser _ _ _ | logout => .nothing
  | initPin _ | setPin _ _ | destroyObject _ | setAttributes _ _ => .nothing
  | startFind _ | endFind | seedRandom _ | start _ _ | cancel _ => .nothing
  | functionStatus | cancelFunction => .nothing
  | info => .sessionInfo
  | isRw => .bool
  | operationState | wrapKey _ _ _ => .bytes
  | randomBytes _ => .attempt .bytes
  | readAttribute _ _ => .attr
  | readAttributes _ _ => .template
  | readBool _ _ => .optional .bool
  | readNumber _ _ => .optional .code
  | readBytes _ _ => .optional .bytes
  | readText _ _ => .optional .text
  | readBigNat _ _ => .optional .number
  | readNumbers _ _ => .list (.optional .code)
  | readBytesList _ _ => .list (.optional .bytes)
  | readTexts _ _ => .list (.optional .text)
  | find _ => .attempt (.list .code)
  | findAll _ => .list .code
  | generateKeyPair _ _ _ => .codePair
  | step s => s.yield
  | message s => s.yield

/-- What a request yields. -/
@[reducible]
def Result (request : Request) : Type := request.yield.Value

/-- What comes back beside the result: the parameters of a message. -/
@[reducible]
def Written : Request → Type
  | message s => s.Written
  | _ => Unit

end Request

/-- The answer to a request. -/
structure Request.Answer (request : Request) where
  result : Except Error request.Result
  written : request.Written

namespace Session

/-- A call without anything beside its result, as an answer to a request. -/
def plainly {α β : Type} (answer : Except Error α → β) (action : Action α) : Program (β × Session) :=
  action.map fun (result, session) => (answer result, session)

/-- Carries a request out. -/
def perform (session : Session) : (request : Request) → Program (request.Answer × Session)
  | .handle => .done (⟨session.openHandle, ()⟩, session)
  | .close => plainly (⟨·, ()⟩) session.close
  | .info => plainly (⟨·, ()⟩) session.info
  | .isRw => plainly (⟨·, ()⟩) session.isRw
  | .operationState => plainly (⟨·, ()⟩) session.operationState
  | .setOperationState state encryptionKey authenticationKey =>
    plainly (⟨·, ()⟩) (session.setOperationState state encryptionKey authenticationKey)
  | .login user pin => plainly (⟨·, ()⟩) (session.login user pin)
  | .loginUser user pin name => plainly (⟨·, ()⟩) (session.loginUser user pin name)
  | .logout => plainly (⟨·, ()⟩) session.logout
  | .initPin pin => plainly (⟨·, ()⟩) (session.initPin pin)
  | .setPin oldPin newPin => plainly (⟨·, ()⟩) (session.setPin oldPin newPin)
  | .createObject template => plainly (⟨·, ()⟩) (session.createObject template)
  | .copyObject object template => plainly (⟨·, ()⟩) (session.copyObject object template)
  | .destroyObject object => plainly (⟨·, ()⟩) (session.destroyObject object)
  | .objectSize object => plainly (⟨·, ()⟩) (session.objectSize object)
  | .setAttributes object template => plainly (⟨·, ()⟩) (session.setAttributes object template)
  | .readAttribute object type => plainly (⟨·, ()⟩) (session.readAttribute object type)
  | .readAttributes object types => plainly (⟨·, ()⟩) (session.readAttributes object types)
  | .readBool object type => plainly (⟨·, ()⟩) (session.valueOf Attribute.bool? object type)
  | .readNumber object type => plainly (⟨·, ()⟩) (session.valueOf Attribute.number? object type)
  | .readBytes object type => plainly (⟨·, ()⟩) (session.valueOf Attribute.bytes? object type)
  | .readText object type => plainly (⟨·, ()⟩) (session.valueOf Attribute.text? object type)
  | .readBigNat object type => plainly (⟨·, ()⟩) (session.valueOf Attribute.bigNat? object type)
  | .readNumbers object types => plainly (⟨·, ()⟩) (session.valuesOf Template.number? object types)
  | .readBytesList object types => plainly (⟨·, ()⟩) (session.valuesOf Template.bytes? object types)
  | .readTexts object types => plainly (⟨·, ()⟩) (session.valuesOf Template.text? object types)
  | .startFind template => plainly (⟨·, ()⟩) (session.startFind template)
  | .find max => plainly (⟨·, ()⟩) (session.find max)
  | .endFind => plainly (⟨·, ()⟩) session.endFind
  | .findAll template => plainly (⟨·, ()⟩) (session.findAll template)
  | .generateKey mechanism template => plainly (⟨·, ()⟩) (session.generateKey mechanism template)
  | .generateKeyPair mechanism publicTemplate privateTemplate =>
    plainly (⟨·, ()⟩) (session.generateKeyPair mechanism publicTemplate privateTemplate)
  | .wrapKey mechanism wrappingKey key => plainly (⟨·, ()⟩) (session.wrapKey mechanism wrappingKey key)
  | .unwrapKey mechanism unwrappingKey wrapped template =>
    plainly (⟨·, ()⟩) (session.unwrapKey mechanism unwrappingKey wrapped template)
  | .deriveKey mechanism baseKey template =>
    plainly (⟨·, ()⟩) (session.deriveKey mechanism baseKey template)
  | .seedRandom seed => plainly (⟨·, ()⟩) (session.seedRandom seed)
  | .randomBytes length => plainly (⟨·, ()⟩) (session.randomBytes length)
  | .start start mechanism => plainly (⟨·, ()⟩) (session.start start mechanism)
  | .step step => plainly (⟨·, ()⟩) (session.step step)
  | .message step =>
    (session.message step).map fun ((result, written), session) => (⟨result, written⟩, session)
  | .cancel flags => plainly (⟨·, ()⟩) (session.cancel flags)
  | .functionStatus => plainly (⟨·, ()⟩) session.functionStatus
  | .cancelFunction => plainly (⟨·, ()⟩) session.cancelFunction

end Session

end TokenClient
