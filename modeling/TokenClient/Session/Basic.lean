import TokenClient.Attribute.Codec
import TokenClient.Attribute.KeyTypes
import TokenClient.Client
import TokenClient.Session.Tracker
import TokenClient.Template

/-!
# Sessions

A session belongs to a token and is known to the module by a handle, until it is closed. Most calls on a
session go to the module as they are and leave the session alone (`Session.forward`); those that touch
operations are in `Session.Operations` and `Session.Search`.

Every call is a program whose value is the result together with the session after the call.
-/

namespace TokenClient

/-- A session with a token. -/
structure Session where
  token : Token
  /-- The module's handle; none once the session is closed. -/
  handle : Option Code
  /-- Whether the session may change token objects, once that has been asked. -/
  knownRw : Option Bool
  tracker : Tracker
deriving DecidableEq, Repr

/-- A call that yields an `α`, and the session after it. -/
abbrev Session.Action (α : Type) : Type := Program (Except Error α × Session)

/-- Opens a session, one that may change token objects if `rw`. -/
def Token.openSession (token : Token) (rw : Bool) : Program (Except Error Session) :=
  let flags := if rw then Flag.serialSession ||| Flag.rwSession else Flag.serialSession
  (Program.request (.openSession token.slot flags)).map fun result =>
    result.map fun handle => ⟨token, some handle, none, .idle⟩

namespace Session

variable {α : Type}

/-- Whether a session is closed. -/
def isClosed (session : Session) : Bool := session.handle.isNone

/-- The operations that run on a session. -/
def active (session : Session) : OperationSet := session.tracker.active

/-- The character encoding of a session. -/
def encoding (session : Session) : Encoding := session.token.client.encoding

/-- The code map of a session. -/
def codes (session : Session) : CodeMap := session.token.client.codes

/-- The handle of a session, an error if it is closed. -/
def openHandle (session : Session) : Except Error Code :=
  match session.handle with
  | some handle => .ok handle
  | none => .error .sessionClosed

/-- A template as the module wants it: key types in its own numbering, in wire form. A template goes out as it
is if the code map translates nothing. -/
def wireTemplate (session : Session) (template : Template) : List WireAttribute :=
  if session.codes.isEmpty then template.toWire session.encoding
  else (template.mapKeyTypes session.codes.keyTypeToVendor).toWire session.encoding

/-- A mechanism as the module wants it: the code in its own numbering. -/
def wireMechanism (session : Session) (mechanism : Mechanism) : Mechanism :=
  ⟨session.codes.mechanismToVendor mechanism.code, mechanism.params⟩

/-- The call that fails without asking the module and without a trace in the session. -/
def refuse (session : Session) (error : Error) : Action α := .done (.error error, session)

/-- Passes a command on to the module and gives back its result; nothing changes in the session. -/
def forward (session : Session) (command : Command) : Action command.Result :=
  match session.openHandle with
  | .error e => session.refuse e
  | .ok handle => (Program.request (.inSession handle command)).map fun result => (result, session)

/-- Closes a session. Whatever the module says to it, every later call fails. -/
def close (session : Session) : Action Unit :=
  match session.openHandle with
  | .error e => session.refuse e
  | .ok handle =>
    (Program.request (.inSession handle .closeSession)).map fun result =>
      (result, { session with handle := none, tracker := .idle })

/-- Gives a session up: it is closed if it was not before. -/
def release (session : Session) : Program Unit :=
  match session.handle with
  | none => .done ()
  | some handle => (Program.request (.inSession handle .closeSession)).map fun _ => ()

/-- What the module says of a session. -/
def info (session : Session) : Action SessionInfo := session.forward .getSessionInfo

/-- Whether a session may change token objects. The module is asked once. -/
def isRw (session : Session) : Action Bool :=
  match session.knownRw with
  | some rw => .done (.ok rw, session)
  | none =>
    session.info.map fun
      | (.ok info, session) => (.ok info.isRw, { session with knownRw := some info.isRw })
      | (.error e, session) => (.error e, session)

/-- Restores a saved operation state. Which operations it carries is not known, so the tracker starts
afresh. -/
def setOperationState (session : Session) (state : Bytes) (encryptionKey authenticationKey : Code) :
    Action Unit :=
  (session.forward (.setOperationState state encryptionKey authenticationKey)).map fun
    | (.ok (), session) => (.ok (), { session with tracker := .idle })
    | (.error e, session) => (.error e, session)

/-- Logs a user in. That the user is logged in already is no failure. -/
def login (session : Session) (user : Code) (pin : String) : Action Unit :=
  (session.forward (.login user (session.encoding.encode pin))).map fun
    | (.ok (), session) => (.ok (), session)
    | (.error e, session) =>
      (if e.isRv Rv.userAlreadyLoggedIn then .ok () else .error e, session)

end Session

end TokenClient
