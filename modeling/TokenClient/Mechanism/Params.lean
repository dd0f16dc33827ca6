import TokenClient.Error

/-!
# Mechanism parameters

The parameters that mechanisms take, one shape for each family. Shapes with limits on their fields carry
the limits as part of their type, and `make` is how a value enters one: outside the limits it is refused
as a bad argument. Whether a shape fits the mechanism it is given to is for the token to say.
-/

namespace TokenClient

/-- The failure of parameters outside their limits. -/
def Error.badArguments : Error := .token Rv.argumentsBad

/-- Parameters of the counter mode with authentication. -/
structure GcmParams where
  iv : Bytes
  aad : Bytes
  tagBits : Code
  tagBits_le : tagBits ≤ 128
deriving DecidableEq

/-- Parameters with a tag of up to 128 bits. -/
def GcmParams.make (iv aad : Bytes) (tagBits : Code) : Except Error GcmParams :=
  if h : tagBits ≤ 128 then .ok ⟨iv, aad, tagBits, h⟩ else .error .badArguments

/-- Whether a nonce of the counter mode with a chained authenticator has an allowed length. -/
def IsCcmNonce (nonce : Bytes) : Prop := 7 ≤ nonce.length ∧ nonce.length ≤ 13

instance (nonce : Bytes) : Decidable (IsCcmNonce nonce) := by
  unfold IsCcmNonce; infer_instance

/-- Parameters of the counter mode with a chained authenticator. -/
structure CcmParams where
  dataLen : Code
  nonce : Bytes
  aad : Bytes
  macLen : Code
  valid : IsCcmNonce nonce ∧ 4 ≤ macLen ∧ macLen ≤ 16 ∧ macLen % 2 = 0
deriving DecidableEq

/-- Parameters with a nonce of 7 to 13 bytes and an authenticator of 4, 6, … or 16 bytes. -/
def CcmParams.make (dataLen : Code) (nonce aad : Bytes) (macLen : Code) : Except Error CcmParams :=
  if h : IsCcmNonce nonce ∧ 4 ≤ macLen ∧ macLen ≤ 16 ∧ macLen % 2 = 0 then
    .ok ⟨dataLen, nonce, aad, macLen, h⟩
  else .error .badArguments

/-- Whether a nonce of the stream cipher with authentication has an allowed length. -/
def IsChaChaNonce (nonce : Bytes) : Prop :=
  nonce.length = 8 ∨ nonce.length = 12 ∨ nonce.length = 24

instance (nonce : Bytes) : Decidable (IsChaChaNonce nonce) := by
  unfold IsChaChaNonce; infer_instance

/-- Parameters of the stream cipher with authentication. -/
structure ChaCha20Poly1305Params where
  nonce : Bytes
  aad : Bytes
  valid : IsChaChaNonce nonce
deriving DecidableEq

/-- Parameters with a nonce of 8, 12 or 24 bytes. -/
def ChaCha20Poly1305Params.make (nonce aad : Bytes) : Except Error ChaCha20Poly1305Params :=
  if h : IsChaChaNonce nonce then .ok ⟨nonce, aad, h⟩ else .error .badArguments

structure RsaPkcsOaepParams where
  hashAlg : Code
  mgf : Code
  sourceData : Option Bytes
deriving DecidableEq

structure RsaPkcsPssParams where
  hashAlg : Code
  mgf : Code
  saltLen : Code
deriving DecidableEq

structure Ecdh1DeriveParams where
  kdf : Code
  sharedData : Option Bytes
  publicData : Bytes
deriving DecidableEq

structure X942Dh1DeriveParams where
  kdf : Code
  otherInfo : Option Bytes
  publicData : Bytes
deriving DecidableEq

structure X942Dh2DeriveParams where
  kdf : Code
  otherInfo : Option Bytes
  publicData : Bytes
  privateDataLen : Code
  privateData : Code
  publicData2 : Bytes
deriving DecidableEq

structure KeaDeriveParams where
  isSender : Bool
  randomA : Bytes
  randomB : Bytes
  publicData : Bytes
deriving DecidableEq

/-- Parameters of password based encryption. -/
structure PbeParams where
  iv : Bytes
  password : Bytes
  salt : Bytes
  iterations : Code
  valid : iv.length = 8
deriving DecidableEq

/-- Parameters with an initial vector of 8 bytes. -/
def PbeParams.make (iv password salt : Bytes) (iterations : Code) : Except Error PbeParams :=
  if h : iv.length = 8 then .ok ⟨iv, password, salt, iterations, h⟩ else .error .badArguments

structure Pkcs5Pbkd2Params where
  saltSource : Code
  salt : Bytes
  iterations : Code
  prf : Code
  prfData : Option Bytes
  password : Bytes
deriving DecidableEq

structure Rc2CbcParams where
  effectiveBits : Code
  iv : Bytes
  valid : 1 ≤ effectiveBits ∧ effectiveBits ≤ 1024 ∧ iv.length = 8
deriving DecidableEq

/-- Parameters with 1 to 1024 effective bits and an initial vector of 8 bytes. -/
def Rc2CbcParams.make (effectiveBits : Code) (iv : Bytes) : Except Error Rc2CbcParams :=
  if h : 1 ≤ effectiveBits ∧ effectiveBits ≤ 1024 ∧ iv.length = 8 then
    .ok ⟨effectiveBits, iv, h⟩
  else .error .badArguments

structure Rc5MacGeneralParams where
  wordSize : Code
  rounds : Code
  macLength : Code
deriving DecidableEq

/-- Parameters of deriving a key by encrypting data with a cipher of this block length. -/
structure CbcEncryptDataParams (block : Nat) where
  iv : Bytes
  data : Bytes
  valid : iv.length = block
deriving DecidableEq

/-- Parameters with an initial vector of one block. -/
def CbcEncryptDataParams.make (block : Nat) (iv data : Bytes) :
    Except Error (CbcEncryptDataParams block) :=
  if h : iv.length = block then .ok ⟨iv, data, h⟩ else .error .badArguments

structure EddsaParams where
  phFlag : Bool
  contextData : Option Bytes
deriving DecidableEq

structure HkdfParams where
  extract : Bool
  expand : Bool
  prfHashMechanism : Code
  saltType : Code
  salt : Option Bytes
  saltKey : Code
  info : Option Bytes
deriving DecidableEq

/-- The parameters of a mechanism. -/
inductive MechanismParams where
  /-- Plain bytes, such as an initial vector. -/
  | bytes (bytes : Bytes)
  /-- A number, such as the length of an authenticator. -/
  | ulong (value : Code)
  /-- The handle of another key. -/
  | objectHandle (handle : Code)
  | gcm (params : GcmParams)
  | ccm (params : CcmParams)
  | chaCha20Poly1305 (params : ChaCha20Poly1305Params)
  | rsaPkcsOaep (params : RsaPkcsOaepParams)
  | rsaPkcsPss (params : RsaPkcsPssParams)
  | ecdh1Derive (params : Ecdh1DeriveParams)
  | x942Dh1Derive (params : X942Dh1DeriveParams)
  | x942Dh2Derive (params : X942Dh2DeriveParams)
  | keaDerive (params : KeaDeriveParams)
  | pbe (params : PbeParams)
  | pkcs5Pbkd2 (params : Pkcs5Pbkd2Params)
  | rc2Cbc (params : Rc2CbcParams)
  | rc5MacGeneral (params : Rc5MacGeneralParams)
  | desCbcEncryptData (params : CbcEncryptDataParams 8)
  | aesCbcEncryptData (params : CbcEncryptDataParams 16)
  | eddsa (params : EddsaParams)
  | hkdf (params : HkdfParams)
deriving DecidableEq

/-- A mechanism with its parameters. -/
structure Mechanism where
  code : Code
  params : Option MechanismParams
deriving DecidableEq

end TokenClient
