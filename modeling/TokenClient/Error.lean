import TokenClient.Code.Rv

/-!
# Errors

Why a call of the client failed. What a token answers carries its return value; refusals of the client
itself — the operation tracker, a closed session, an unreadable attribute, the configuration — are
causes of their own, so that a caller can tell the two apart without looking at return values. Every
cause has a return value nonetheless, the one that fits it best.
-/

namespace TokenClient

/-- Why a call failed. -/
inductive Error where
  /-- The token answered with this return value. -/
  | token (rv : Code)
  /-- The token answered with this return value, and there is more to say about it. -/
  | tokenMessage (rv : Code) (message : String)
  /-- The token answered with this return value on account of another failure. -/
  | tokenCause (rv : Code) (cause : String)
  /-- The operation tracker refused the call. -/
  | operationState (rv : Code) (message : String)
  /-- The session was closed before. -/
  | sessionClosed
  /-- The token told nothing about the attribute of this name. -/
  | stateUnknown (name : String)
  /-- No kind is known for this attribute type. -/
  | unknownAttributeType (type : Code)
  /-- The configuration is invalid. -/
  | config (message : String)
  /-- The configuration could not be read. -/
  | configCause (cause : String)
  /-- Another failure underneath. -/
  | nested (cause : String)
deriving DecidableEq, Repr

namespace Error

/-- The classes of errors that callers tell apart. -/
inductive Kind where
  | token
  | signatureInvalid
  | operationState
  | sessionClosed
  | stateUnknown
  | unknownAttributeType
  | config
  | nested
deriving DecidableEq, Repr

/-- The class of an error. A bare answer that a signature does not match is a class of its own. -/
def kind : Error → Kind
  | token rv => if rv = Rv.signatureInvalid then .signatureInvalid else .token
  | tokenMessage _ _ => .token
  | tokenCause _ _ => .token
  | operationState _ _ => .operationState
  | sessionClosed => .sessionClosed
  | stateUnknown _ => .stateUnknown
  | unknownAttributeType _ => .unknownAttributeType
  | config _ => .config
  | configCause _ => .config
  | nested _ => .nested

/-- The return value that fits an error. -/
def rv : Error → Code
  | token rv => rv
  | tokenMessage rv _ => rv
  | tokenCause rv _ => rv
  | operationState rv _ => rv
  | sessionClosed => Rv.sessionHandleInvalid
  | stateUnknown _ => Rv.generalError
  | unknownAttributeType _ => Rv.attributeTypeInvalid
  | config _ => Rv.argumentsBad
  | configCause _ => Rv.argumentsBad
  | nested _ => Rv.generalError

/-- The text of an error. -/
def message : Error → String
  | token rv => Rv.name rv
  | tokenMessage rv message => Rv.name rv ++ ": " ++ message
  | tokenCause rv _ => Rv.name rv
  | operationState rv message => Rv.name rv ++ " (local state): " ++ message
  | sessionClosed => "session is closed"
  | stateUnknown name => "state of attribute " ++ name ++ " is unknown"
  | unknownAttributeType type => "unknown attribute type 0x" ++ String.ofList (Text.hexCode8 type)
  | config message => "configuration error: " ++ message
  | configCause cause => "configuration error: " ++ cause
  | nested cause => cause

/-- The failure underneath an error, if there is one. -/
def source : Error → Option String
  | tokenCause _ cause => some cause
  | configCause cause => some cause
  | nested cause => some cause
  | _ => none

/-- Whether a verification found that the signature does not match. -/
def isSignatureInvalid (error : Error) : Bool := error.kind = .signatureInvalid

/-- Whether an error is an answer of the token with exactly this return value. -/
def isRv (error : Error) (rv : Code) : Bool :=
  match error.kind with
  | .token | .signatureInvalid => error.rv == rv
  | _ => false

end Error

end TokenClient
