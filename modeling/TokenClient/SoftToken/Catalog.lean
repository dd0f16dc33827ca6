import TokenClient.Code.MechanismType
import TokenClient.Error
import TokenClient.Mechanism.Capability
import TokenClient.Module.Info

/-!
# What the token in memory says of itself

Two slots, of which the first holds the token, and seven mechanisms, one of them under the module's own
number.
-/

namespace TokenClient.SoftToken

/-- The slot with the token. -/
def tokenSlot : Code := 1

/-- The slot without a token. -/
def emptySlot : Code := 2

/-- The PIN of the user. -/
def userPin : Bytes := [0x31, 0x32, 0x33, 0x34, 0x35, 0x36, 0x37, 0x38]

/-- The type of the only user. -/
def normalUser : Code := 1

/-- The module's own number for SM4 in ECB mode. -/
def sm4Ecb : Code := 0x80000608

/-- The mechanisms and what the token can do with them. -/
def mechanisms : List (Code × MechanismInfo) :=
  [(MechanismType.aesKeyGen, ⟨16, 32, Flag.generate⟩),
   (MechanismType.aesEcb, ⟨16, 32, Flag.encrypt ||| Flag.decrypt⟩),
   (MechanismType.aesGcm, ⟨16, 32, Flag.messageEncrypt ||| Flag.messageDecrypt⟩),
   (MechanismType.sha256, ⟨0, 0, Flag.digest⟩),
   (MechanismType.sha256Hmac, ⟨1, 512, Flag.sign ||| Flag.verify⟩),
   (MechanismType.ecKeyPairGen, ⟨256, 521, Flag.generateKeyPair ||| Flag.ecFp ||| Flag.ecOid⟩),
   (sm4Ecb, ⟨16, 16, Flag.encrypt ||| Flag.decrypt⟩)]

/-- The codes of the mechanisms. -/
def mechanismCodes : List Code := mechanisms.map (·.1)

/-- The module. -/
def moduleInfo : ModuleInfo :=
  ⟨⟨3, 1⟩, "Mock Devices Inc.", 0, "Mock PKCS#11 Module", ⟨2, 4⟩⟩

/-- The slots. -/
def slots (tokenPresent : Bool) : List Code :=
  if tokenPresent then [tokenSlot] else [tokenSlot, emptySlot]

/-- A slot. -/
def slotInfo (slot : Code) : Except Error SlotInfo :=
  let described (flags : Code) : SlotInfo :=
    ⟨"Mock slot " ++ toString slot.toNat, "Mock Devices Inc.", flags, .zero, .zero⟩
  if slot = tokenSlot then .ok (described Flag.tokenPresent)
  else if slot = emptySlot then .ok (described 0)
  else .error (.token Rv.slotIdInvalid)

/-- The token in a slot. -/
def tokenInfo (slot : Code) : Except Error TokenInfo :=
  if slot = tokenSlot then
    .ok ⟨"MOCK TOKEN", "Mock Devices Inc.", "mock", "0001", Flag.tokenInitialized ||| Flag.loginRequired⟩
  else .error (.token Rv.tokenNotPresent)

/-- The mechanisms of the token in a slot. -/
def mechanismList (slot : Code) : Except Error (List Code) :=
  if slot = tokenSlot then .ok mechanismCodes else .error (.token Rv.tokenNotPresent)

/-- What the token can do with a mechanism. -/
def mechanismInfo (mechanism : Code) : Except Error MechanismInfo :=
  match mechanisms.lookup mechanism with
  | some info => .ok info
  | none => .error (.token Rv.mechanismInvalid)

end TokenClient.SoftToken
