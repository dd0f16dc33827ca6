import TokenClient.Code.Flag
import TokenClient.Version

/-!
# What a module says of itself

The descriptions that a module gives of itself, its slots, its tokens and its sessions, and their texts.
-/

namespace TokenClient

/-- The description of a module. -/
structure ModuleInfo where
  cryptokiVersion : Version
  manufacturerId : String
  flags : Code
  libraryDescription : String
  libraryVersion : Version
deriving DecidableEq, Repr, Inhabited

/-- The text of a module's description. -/
def ModuleInfo.display (info : ModuleInfo) : String :=
  "Cryptoki Version: " ++ info.cryptokiVersion.display ++
    "\nManufacturer ID: " ++ info.manufacturerId ++
    "\nLibrary Description: " ++ info.libraryDescription ++
    "\nLibrary Version: " ++ info.libraryVersion.display

/-- The description of a slot. -/
structure SlotInfo where
  slotDescription : String
  manufacturerId : String
  flags : Code
  hardwareVersion : Version
  firmwareVersion : Version
deriving DecidableEq, Repr, Inhabited

/-- Whether there is a token in a slot. -/
def SlotInfo.tokenPresent (info : SlotInfo) : Bool := info.flags.meets Flag.tokenPresent

/-- The description of a token. -/
structure TokenInfo where
  label : String
  manufacturerId : String
  model : String
  serialNumber : String
  flags : Code
deriving DecidableEq, Repr, Inhabited

/-- The text of a token's description. -/
def TokenInfo.display (info : TokenInfo) : String :=
  "Label: " ++ info.label ++
    "\nManufacturer ID: " ++ info.manufacturerId ++
    "\nModel: " ++ info.model ++
    "\nSerial Number: " ++ info.serialNumber ++
    "\nFlags: 0x" ++ String.ofList (Text.hexCode info.flags)

/-- The description of a session. -/
structure SessionInfo where
  slot : Code
  state : Code
  flags : Code
  deviceError : Code
deriving DecidableEq, Repr, Inhabited

/-- Whether a session may change token objects. -/
def SessionInfo.isRw (info : SessionInfo) : Bool := info.flags.meets Flag.rwSession

end TokenClient
