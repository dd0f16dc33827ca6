import TokenClient.Code.MechanismType
import TokenClient.Mechanism.Params

/-!
# Mechanisms as text

A mechanism shows its name and, behind it, its parameters: the shape, the shape's record and in braces
every field with its name. Bytes are lists of decimal numbers.
-/

namespace TokenClient

namespace MechanismParams

/-- The text of a word. -/
def codeText (code : Code) : String := toString code.toNat

/-- The text of a byte string. -/
def bytesText (bytes : Bytes) : String :=
  "[" ++ String.intercalate ", " (bytes.map fun b => toString b.toNat) ++ "]"

/-- The text of a byte string that may be missing. -/
def optionalText : Option Bytes → String
  | none => "None"
  | some data => "Some(" ++ bytesText data ++ ")"

/-- The text of a truth value. -/
def boolText (b : Bool) : String := if b then "true" else "false"

/-- The text of a record with its fields. -/
def recordText (name : String) (fields : List (String × String)) : String :=
  name ++ " \x7b " ++ String.intercalate ", " (fields.map fun (field, text) => field ++ ": " ++ text) ++
    " \x7d"

/-- The text of a shape around what it holds. -/
def shapeText (shape inner : String) : String := shape ++ "(" ++ inner ++ ")"

/-- The text of parameters. -/
def display : MechanismParams → String
  | bytes b => shapeText "Bytes" (bytesText b)
  | ulong n => shapeText "Ulong" (codeText n)
  | objectHandle h => shapeText "ObjectHandle" (codeText h)
  | gcm p => shapeText "Gcm" <| recordText "GcmParams"
      [("iv", bytesText p.iv), ("aad", bytesText p.aad), ("tag_bits", codeText p.tagBits)]
  | ccm p => shapeText "Ccm" <| recordText "CcmParams"
      [("data_len", codeText p.dataLen), ("nonce", bytesText p.nonce), ("aad", bytesText p.aad),
       ("mac_len", codeText p.macLen)]
  | chaCha20Poly1305 p => shapeText "ChaCha20Poly1305" <| recordText "ChaCha20Poly1305Params"
      [("nonce", bytesText p.nonce), ("aad", bytesText p.aad)]
  | rsaPkcsOaep p => shapeText "RsaPkcsOaep" <| recordText "RsaPkcsOaepParams"
      [("hash_alg", codeText p.hashAlg), ("mgf", codeText p.mgf),
       ("source_data", optionalText p.sourceData)]
  | rsaPkcsPss p => shapeText "RsaPkcsPss" <| recordText "RsaPkcsPssParams"
      [("hash_alg", codeText p.hashAlg), ("mgf", codeText p.mgf), ("salt_len", codeText p.saltLen)]
  | ecdh1Derive p => shapeText "Ecdh1Derive" <| recordText "Ecdh1DeriveParams"
      [("kdf", codeText p.kdf), ("shared_data", optionalText p.sharedData),
       ("public_data", bytesText p.publicData)]
  | x942Dh1Derive p => shapeText "X942Dh1Derive" <| recordText "X942Dh1DeriveParams"
      [("kdf", codeText p.kdf), ("other_info", optionalText p.otherInfo),
       ("public_data", bytesText p.publicData)]
  | x942Dh2Derive p => shapeText "X942Dh2Derive" <| recordText "X942Dh2DeriveParams"
      [("kdf", codeText p.kdf), ("other_info", optionalText p.otherInfo),
       ("public_data", bytesText p.publicData), ("private_data_len", codeText p.privateDataLen),
       ("private_data", codeText p.privateData), ("public_data2", bytesText p.publicData2)]
  | keaDerive p => shapeText "KeaDerive" <| recordText "KeaDeriveParams"
      [("is_sender", boolText p.isSender), ("random_a", bytesText p.randomA),
       ("random_b", bytesText p.randomB), ("public_data", bytesText p.publicData)]
  | pbe p => shapeText "Pbe" <| recordText "PbeParams"
      [("iv", bytesText p.iv), ("password", bytesText p.password), ("salt", bytesText p.salt),
       ("iterations", codeText p.iterations)]
  | pkcs5Pbkd2 p => shapeText "Pkcs5Pbkd2" <| recordText "Pkcs5Pbkd2Params"
      [("salt_source", codeText p.saltSource), ("salt", bytesText p.salt),
       ("iterations", codeText p.iterations), ("prf", codeText p.prf),
       ("prf_data", optionalText p.prfData), ("password", bytesText p.password)]
  | rc2Cbc p => shapeText "Rc2Cbc" <| recordText "Rc2CbcParams"
      [("effective_bits", codeText p.effectiveBits), ("iv", bytesText p.iv)]
  | rc5MacGeneral p => shapeText "Rc5MacGeneral" <| recordText "Rc5MacGeneralParams"
      [("word_size", codeText p.wordSize), ("rounds", codeText p.rounds),
       ("mac_length", codeText p.macLength)]
  | desCbcEncryptData p => shapeText "DesCbcEncryptData" <| recordText "CbcEncryptDataParams"
      [("iv", bytesText p.iv), ("data", bytesText p.data)]
  | aesCbcEncryptData p => shapeText "AesCbcEncryptData" <| recordText "CbcEncryptDataParams"
      [("iv", bytesText p.iv), ("data", bytesText p.data)]
  | eddsa p => shapeText "Eddsa" <| recordText "EddsaParams"
      [("ph_flag", boolText p.phFlag), ("context_data", optionalText p.contextData)]
  | hkdf p => shapeText "Hkdf" <| recordText "HkdfParams"
      [("extract", boolText p.extract), ("expand", boolText p.expand),
       ("prf_hash_mechanism", codeText p.prfHashMechanism), ("salt_type", codeText p.saltType),
       ("salt", optionalText p.salt), ("salt_key", codeText p.saltKey),
       ("info", optionalText p.info)]

end MechanismParams

/-- The name of a mechanism. -/
def Mechanism.name (mechanism : Mechanism) : String := MechanismType.name mechanism.code

/-- The text of a mechanism. -/
def Mechanism.display (mechanism : Mechanism) : String :=
  match mechanism.params with
  | some params => mechanism.name ++ " " ++ params.display
  | none => mechanism.name

end TokenClient
