import TokenClient.Module.Program
import TokenClient.Text.Encoding
import TokenClient.Vendor.Config

/-!
# The catalog

A client is connected to a module. From there one gets to its slots, to the tokens in them, and to what
the tokens can do. Applications name mechanisms by generic codes; the module has its own numbering, and
the code map of the client translates on the way in and out.
-/

namespace TokenClient

/-- A client connected to a module. -/
structure Client where
  /-- The file that the module was loaded from, if it is known. -/
  path : Option String
  codes : CodeMap
  encoding : Encoding
deriving DecidableEq, Repr

namespace Client

/-- Asks the module what it is and selects the code map for it. -/
def connect (path : Option String) (config : Config) : Program (Except Error Client) :=
  (Program.request .getInfo).map fun
    | .ok info =>
      (config.codeMap path info).map fun codes => ⟨path, codes, Encoding.ofUseUtf8 config.useUtf8⟩
    | .error e => .error e

/-- What the module says of itself. -/
def info (_ : Client) : Program (Except Error ModuleInfo) := Program.request .getInfo

/-- The slots of the module, or only those with a token in them. -/
def slots (_ : Client) (tokenPresent : Bool) : Program (Except Error (List Code)) :=
  Program.request (.getSlotList tokenPresent)

/-- What the module says of a slot. -/
def slotInfo (_ : Client) (slot : Code) : Program (Except Error SlotInfo) :=
  Program.request (.getSlotInfo slot)

end Client

/-- The token in a slot. -/
structure Token where
  client : Client
  slot : Code
deriving DecidableEq, Repr

/-- The token in a slot; it is an error if the slot is empty. -/
def Client.token (client : Client) (slot : Code) : Program (Except Error Token) :=
  (client.slotInfo slot).map fun
    | .ok info => if info.tokenPresent then .ok ⟨client, slot⟩ else .error (.token Rv.tokenNotPresent)
    | .error e => .error e

namespace Token

/-- What the module says of a token. -/
def info (token : Token) : Program (Except Error TokenInfo) :=
  Program.request (.getTokenInfo token.slot)

/-- The mechanisms that a token lists, as generic codes. -/
def mechanisms (token : Token) : Program (Except Error (List Code)) :=
  (Program.request (.getMechanismList token.slot)).map fun result =>
    result.map fun codes => codes.map token.client.codes.mechanismToGeneric

/-- What a token can do with a mechanism, named by its generic code. -/
def mechanismInfo (token : Token) (mechanism : Code) : Program (Except Error MechanismInfo) :=
  Program.request (.getMechanismInfo token.slot (token.client.codes.mechanismToVendor mechanism))

/-- Whether a token lists a mechanism and can do with it what is required. A mechanism that is not listed
is not asked about. -/
def supports (token : Token) (mechanism : Code) (required : MechanismInfo) :
    Program (Except Error Bool) :=
  token.mechanisms.andThen fun codes =>
    if mechanism ∈ codes then
      (token.mechanismInfo mechanism).map fun info => info.map fun own => own.supports required
    else .done (.ok false)

/-- Ends all sessions with a token. -/
def closeAllSessions (token : Token) : Program (Except Error Unit) :=
  Program.request (.closeAllSessions token.slot)

end Token

end TokenClient
