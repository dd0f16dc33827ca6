import TokenClient.Module.Step
import TokenClient.Wire

/-!
# Calls on a module

Everything a client asks of a loaded module, as data: the general calls, and the commands that carry the
handle of a session. Each call has a type of results and a type of what the module writes into the
caller's buffers, which it may do whether it succeeds or not. A reply is both.

A module may leave out all but a few calls; those it leaves out are answered as not supported.
-/

namespace TokenClient

/-- A command on a session. Mechanisms are in the module's own numbering and templates in wire form. -/
inductive Command where
  | closeSession
  | getSessionInfo
  | sessionCancel (flags : Code)
  | getOperationState
  | setOperationState (state : Bytes) (encryptionKey authenticationKey : Code)
  | login (user : Code) (pin : Bytes)
  | loginUser (user : Code) (pin name : Bytes)
  | logout
  | initPin (pin : Bytes)
  | setPin (oldPin newPin : Bytes)
  | createObject (template : List WireAttribute)
  | copyObject (object : Code) (template : List WireAttribute)
  | destroyObject (object : Code)
  | getObjectSize (object : Code)
  | getAttributeValue (object : Code) (types : List Code)
  | setAttributeValue (object : Code) (template : List WireAttribute)
  | findObjectsInit (template : List WireAttribute)
  | findObjects (max : UInt64)
  | findObjectsFinal
  | start (start : Start) (mechanism : Mechanism)
  | step (step : Step)
  | message (step : MessageStep)
  | generateKey (mechanism : Mechanism) (template : List WireAttribute)
  | generateKeyPair (mechanism : Mechanism) (publicTemplate privateTemplate : List WireAttribute)
  | wrapKey (mechanism : Mechanism) (wrappingKey key : Code)
  | unwrapKey (mechanism : Mechanism) (unwrappingKey : Code) (wrapped : Bytes)
      (template : List WireAttribute)
  | deriveKey (mechanism : Mechanism) (baseKey : Code) (template : List WireAttribute)
  | seedRandom (seed : Bytes)
  | generateRandom (length : UInt64)
  | getFunctionStatus
  | cancelFunction

namespace Command

/-- The kind of value that a command yields. -/
@[reducible]
def yield : Command → Yield
  | closeSession | sessionCancel _ | setOperationState _ _ _ | login _ _ | loginUser _ _ _ => .nothing
  | logout | initPin _ | setPin _ _ | destroyObject _ | setAttributeValue _ _ => .nothing
  | getAttributeValue _ _ | findObjectsInit _ | findObjectsFinal | start _ _ | seedRandom _ => .nothing
  | getFunctionStatus | cancelFunction => .nothing
  | getSessionInfo => .sessionInfo
  | getOperationState | wrapKey _ _ _ | generateRandom _ => .bytes
  | createObject _ | copyObject _ _ | getObjectSize _ | generateKey _ _ => .code
  | unwrapKey _ _ _ _ | deriveKey _ _ _ => .code
  | generateKeyPair _ _ _ => .codePair
  | findObjects _ => .list .code
  | step s => s.yield
  | message s => s.yield

/-- What a command yields. -/
@[reducible]
def Result (command : Command) : Type := command.yield.Value

/-- What a module writes back: the values of the attributes that are read, from the first on, and the
parameters of a message. -/
@[reducible]
def Written : Command → Type
  | getAttributeValue _ _ => List WireValue
  | message s => s.Written
  | closeSession | getSessionInfo | sessionCancel _ | getOperationState | setOperationState _ _ _ => Unit
  | login _ _ | loginUser _ _ _ | logout | initPin _ | setPin _ _ | createObject _ => Unit
  | copyObject _ _ | destroyObject _ | getObjectSize _ | setAttributeValue _ _ => Unit
  | findObjectsInit _ | findObjects _ | findObjectsFinal | start _ _ | step _ => Unit
  | generateKey _ _ | generateKeyPair _ _ _ | wrapKey _ _ _ | unwrapKey _ _ _ _ => Unit
  | deriveKey _ _ _ | seedRandom _ | generateRandom _ | getFunctionStatus | cancelFunction => Unit

/-- What the buffers hold if the module writes nothing. -/
def untouched : (command : Command) → command.Written
  | getAttributeValue _ _ => []
  | message s => s.untouched
  | closeSession | getSessionInfo | sessionCancel _ | getOperationState | setOperationState _ _ _ => ()
  | login _ _ | loginUser _ _ _ | logout | initPin _ | setPin _ _ | createObject _ => ()
  | copyObject _ _ | destroyObject _ | getObjectSize _ | setAttributeValue _ _ => ()
  | findObjectsInit _ | findObjects _ | findObjectsFinal | start _ _ | step _ => ()
  | generateKey _ _ | generateKeyPair _ _ _ | wrapKey _ _ _ | unwrapKey _ _ _ _ => ()
  | deriveKey _ _ _ | seedRandom _ | generateRandom _ | getFunctionStatus | cancelFunction => ()

end Command

/-- A call on a module. -/
inductive Call where
  | getInfo
  | getSlotList (tokenPresent : Bool)
  | getSlotInfo (slot : Code)
  | getTokenInfo (slot : Code)
  | getMechanismList (slot : Code)
  | getMechanismInfo (slot mechanism : Code)
  | openSession (slot flags : Code)
  | closeAllSessions (slot : Code)
  | inSession (session : Code) (command : Command)

namespace Call

/-- The kind of value that a call yields. -/
@[reducible]
def yield : Call → Yield
  | getInfo => .moduleInfo
  | getSlotList _ | getMechanismList _ => .list .code
  | getSlotInfo _ => .slotInfo
  | getTokenInfo _ => .tokenInfo
  | getMechanismInfo _ _ => .mechanismInfo
  | openSession _ _ => .code
  | closeAllSessions _ => .nothing
  | inSession _ command => command.yield

/-- What a call yields. -/
@[reducible]
def Result (call : Call) : Type := call.yield.Value

/-- What a module writes back. -/
@[reducible]
def Written : Call → Type
  | inSession _ command => command.Written
  | getInfo | getSlotList _ | getSlotInfo _ | getTokenInfo _ | getMechanismList _ => Unit
  | getMechanismInfo _ _ | openSession _ _ | closeAllSessions _ => Unit

/-- What the buffers hold if the module writes nothing. -/
def untouched : (call : Call) → call.Written
  | inSession _ command => command.untouched
  | getInfo | getSlotList _ | getSlotInfo _ | getTokenInfo _ | getMechanismList _ => ()
  | getMechanismInfo _ _ | openSession _ _ | closeAllSessions _ => ()

/-- Whether every module answers a call itself. -/
def isRequired : Call → Bool
  | getInfo | getSlotList _ | getSlotInfo _ | getTokenInfo _ | getMechanismList _ => true
  | getMechanismInfo _ _ | openSession _ _ => true
  | closeAllSessions _ => false
  | inSession _ command =>
    match command with
    | .closeSession | .getSessionInfo | .getAttributeValue _ _ => true
    | .findObjectsInit _ | .findObjects _ | .findObjectsFinal => true
    | _ => false

/-- The answer to a call that a module leaves out. -/
def unsupported : Call → Error
  | inSession _ .getFunctionStatus | inSession _ .cancelFunction => .token Rv.functionNotParallel
  | _ => .token Rv.functionNotSupported

end Call

/-- A module's reply to a call. -/
structure Reply (call : Call) where
  result : Except Error call.Result
  written : call.Written

/-- The reply that fails and writes nothing. -/
def Reply.refuse (call : Call) (error : Error) : Reply call := ⟨.error error, call.untouched⟩

end TokenClient
