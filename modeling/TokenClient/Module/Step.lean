import TokenClient.Mechanism.Message
import TokenClient.Module.Yield
import TokenClient.Operation

/-!
# Starting operations and carrying them on

The calls that make up an operation fall into three groups. A start names a mechanism and mostly a key. A
step of a running operation feeds data or asks for the result; some steps serve two operations at once,
and a final or single-part step ends its operation. A message step belongs to one of the message kinds,
which stay active from message to message.
-/

namespace TokenClient

/-- A start of an operation, with the key it uses. -/
inductive Start where
  | encrypt (key : Code)
  | decrypt (key : Code)
  | digest
  | sign (key : Code)
  | signRecover (key : Code)
  | verify (key : Code)
  | verifyRecover (key : Code)
  | messageEncrypt (key : Code)
  | messageDecrypt (key : Code)
  | messageSign (key : Code)
  | messageVerify (key : Code)
deriving DecidableEq, Repr

namespace Start

/-- The operation that a start starts. -/
def operation : Start → Operation
  | encrypt _ => .encrypt
  | decrypt _ => .decrypt
  | digest => .digest
  | sign _ => .sign
  | signRecover _ => .signRecover
  | verify _ => .verify
  | verifyRecover _ => .verifyRecover
  | messageEncrypt _ => .messageEncrypt
  | messageDecrypt _ => .messageDecrypt
  | messageSign _ => .messageSign
  | messageVerify _ => .messageVerify

/-- The key that a start names; a digest has none. -/
def key? : Start → Option Code
  | digest => none
  | encrypt key | decrypt key | sign key | signRecover key | verify key | verifyRecover key
  | messageEncrypt key | messageDecrypt key | messageSign key | messageVerify key => some key

end Start

/-- A step of one running operation or of two. -/
inductive Step where
  | encrypt (data : Bytes)
  | encryptUpdate (data : Bytes)
  | encryptFinal
  | decrypt (data : Bytes)
  | decryptUpdate (data : Bytes)
  | decryptFinal
  | digest (data : Bytes)
  | digestUpdate (data : Bytes)
  | digestKey (key : Code)
  | digestFinal
  | sign (data : Bytes)
  | signUpdate (data : Bytes)
  | signFinal
  | signRecover (data : Bytes)
  | verify (data signature : Bytes)
  | verifyUpdate (data : Bytes)
  | verifyFinal (signature : Bytes)
  | verifyRecover (signature : Bytes)
  | digestEncryptUpdate (data : Bytes)
  | decryptDigestUpdate (data : Bytes)
  | signEncryptUpdate (data : Bytes)
  | decryptVerifyUpdate (data : Bytes)
  | messageEncryptFinal
  | messageDecryptFinal
  | messageSignFinal
  | messageVerifyFinal
deriving DecidableEq, Repr

namespace Step

/-- The kind of value that a step yields. -/
@[reducible]
def yield : Step → Yield
  | encrypt _ | encryptUpdate _ | encryptFinal => .bytes
  | decrypt _ | decryptUpdate _ | decryptFinal => .bytes
  | digest _ | digestFinal => .bytes
  | digestUpdate _ | digestKey _ => .nothing
  | sign _ | signFinal | signRecover _ => .bytes
  | signUpdate _ => .nothing
  | verify _ _ | verifyUpdate _ | verifyFinal _ => .nothing
  | verifyRecover _ => .bytes
  | digestEncryptUpdate _ | decryptDigestUpdate _ | signEncryptUpdate _ | decryptVerifyUpdate _ => .bytes
  | messageEncryptFinal | messageDecryptFinal | messageSignFinal | messageVerifyFinal => .nothing

/-- What a step yields. -/
@[reducible]
def Result (step : Step) : Type := step.yield.Value

/-- The operations that have to be active for a step, in the order in which this is checked. -/
def operations : Step → List Operation
  | encrypt _ | encryptUpdate _ | encryptFinal => [.encrypt]
  | decrypt _ | decryptUpdate _ | decryptFinal => [.decrypt]
  | digest _ | digestUpdate _ | digestKey _ | digestFinal => [.digest]
  | sign _ | signUpdate _ | signFinal => [.sign]
  | signRecover _ => [.signRecover]
  | verify _ _ | verifyUpdate _ | verifyFinal _ => [.verify]
  | verifyRecover _ => [.verifyRecover]
  | digestEncryptUpdate _ => [.digest, .encrypt]
  | decryptDigestUpdate _ => [.decrypt, .digest]
  | signEncryptUpdate _ => [.sign, .encrypt]
  | decryptVerifyUpdate _ => [.decrypt, .verify]
  | messageEncryptFinal => [.messageEncrypt]
  | messageDecryptFinal => [.messageDecrypt]
  | messageSignFinal => [.messageSign]
  | messageVerifyFinal => [.messageVerify]

/-- Whether a step ends its operation whatever the token answers: single-part steps and final ones do,
the others only if the token fails. -/
def isLast : Step → Bool
  | encrypt _ | encryptFinal | decrypt _ | decryptFinal | digest _ | digestFinal => true
  | sign _ | signFinal | signRecover _ | verify _ _ | verifyFinal _ | verifyRecover _ => true
  | messageEncryptFinal | messageDecryptFinal | messageSignFinal | messageVerifyFinal => true
  | encryptUpdate _ | decryptUpdate _ | digestUpdate _ | digestKey _ => false
  | signUpdate _ | verifyUpdate _ => false
  | digestEncryptUpdate _ | decryptDigestUpdate _ | signEncryptUpdate _ | decryptVerifyUpdate _ => false

/-- Whether a step decides about a signature. -/
def verifies : Step → Bool
  | verify _ _ | verifyFinal _ | verifyRecover _ => true
  | _ => false

end Step

/-- A step of a message kind: a whole message at once, or its beginning and its parts. -/
inductive MessageStep where
  | encrypt (params : MessageParams) (aad plaintext : Bytes)
  | encryptBegin (params : MessageParams) (aad : Bytes)
  | encryptNext (params : MessageParams) (part : Bytes) (last : Bool)
  | decrypt (params : MessageParams) (aad ciphertext : Bytes)
  | decryptBegin (params : MessageParams) (aad : Bytes)
  | decryptNext (params : MessageParams) (part : Bytes) (last : Bool)
  | sign (params : Option MechanismParams) (data : Bytes)
  | signBegin (params : Option MechanismParams)
  | signNext (params : Option MechanismParams) (part : Bytes) (last : Bool)
  | verify (params : Option MechanismParams) (data signature : Bytes)
  | verifyBegin (params : Option MechanismParams)
  /-- The signature comes with the last part. -/
  | verifyNext (params : Option MechanismParams) (part : Bytes) (signature : Option Bytes)

namespace MessageStep

/-- Where in a message a step stands. -/
inductive Place where
  /-- The whole message. -/
  | whole
  /-- The beginning, before any part. -/
  | begin
  /-- A part, perhaps the last one. -/
  | part (last : Bool)
deriving DecidableEq, Repr

/-- The kind of value that a message step yields. -/
@[reducible]
def yield : MessageStep → Yield
  | encrypt _ _ _ | encryptNext _ _ _ => .bytes
  | decrypt _ _ _ | decryptNext _ _ _ => .bytes
  | sign _ _ | signNext _ _ _ => .bytes
  | encryptBegin _ _ | decryptBegin _ _ | signBegin _ => .nothing
  | verify _ _ _ | verifyBegin _ | verifyNext _ _ _ => .nothing

/-- What a message step yields. -/
@[reducible]
def Result (step : MessageStep) : Type := step.yield.Value

/-- What a token may write back: the parameters of an encryption or decryption. -/
@[reducible]
def Written : MessageStep → Type
  | encrypt _ _ _ | encryptBegin _ _ | encryptNext _ _ _ => MessageParams
  | decrypt _ _ _ | decryptBegin _ _ | decryptNext _ _ _ => MessageParams
  | sign _ _ | signBegin _ | signNext _ _ _ => Unit
  | verify _ _ _ | verifyBegin _ | verifyNext _ _ _ => Unit

/-- What is written back if the token writes nothing: the parameters as they were given. -/
def untouched : (step : MessageStep) → step.Written
  | encrypt params _ _ | encryptBegin params _ | encryptNext params _ _ => params
  | decrypt params _ _ | decryptBegin params _ | decryptNext params _ _ => params
  | sign _ _ | signBegin _ | signNext _ _ _ => ()
  | verify _ _ _ | verifyBegin _ | verifyNext _ _ _ => ()

/-- The operation that a message step belongs to. -/
def operation : MessageStep → Operation
  | encrypt _ _ _ | encryptBegin _ _ | encryptNext _ _ _ => .messageEncrypt
  | decrypt _ _ _ | decryptBegin _ _ | decryptNext _ _ _ => .messageDecrypt
  | sign _ _ | signBegin _ | signNext _ _ _ => .messageSign
  | verify _ _ _ | verifyBegin _ | verifyNext _ _ _ => .messageVerify

/-- Where a step stands in its message. -/
def place : MessageStep → Place
  | encrypt _ _ _ | decrypt _ _ _ | sign _ _ | verify _ _ _ => .whole
  | encryptBegin _ _ | decryptBegin _ _ | signBegin _ | verifyBegin _ => .begin
  | encryptNext _ _ last | decryptNext _ _ last | signNext _ _ last => .part last
  | verifyNext _ _ signature => .part signature.isSome

/-- Whether a message step decides about a signature. -/
def verifies : MessageStep → Bool
  | verify _ _ _ | verifyNext _ _ _ => true
  | _ => false

end MessageStep

end TokenClient
