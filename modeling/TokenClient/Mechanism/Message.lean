import TokenClient.Mechanism.Params

/-!
# Parameters of a message

What accompanies each message under the message functions. The token may write a generated initial
vector and, on encryption, the authentication tag back into them; on decryption the tag is the expected
one.
-/

namespace TokenClient

/-- How the initial vector of a message is made: how many of its bits are fixed, and by which generator
the token makes the others. -/
structure IvSource where
  fixedBits : Code
  generator : Code
deriving DecidableEq, Repr

/-- The parameters of a message. -/
inductive MessageParams where
  | gcm (iv : Bytes) (source : IvSource) (tag : Bytes)
  | ccm (dataLen : Code) (nonce : Bytes) (source : IvSource) (mac : Bytes)
  | chaCha20Poly1305 (nonce tag : Bytes)
deriving DecidableEq, Repr

namespace MessageParams

/-- The product of two words, the greatest word if there is none for it. -/
def saturatingMul (a b : Code) : Code := UInt64.ofNat (min (a.toNat * b.toNat) (UInt64.size - 1))

/-- How many bits a byte string has, at most the greatest word. -/
def bitCount (bytes : Bytes) : Code :=
  saturatingMul (UInt64.ofNat (min bytes.length (UInt64.size - 1))) 8

/-- How many bytes it takes to hold a number of bits. -/
def bytesFor (bits : Code) : Nat := ((bits + 7) / 8).toNat

/-- Whether no more bits of an initial vector are fixed than it has. -/
def Fixes (iv : Bytes) (source : IvSource) : Prop := source.fixedBits ≤ bitCount iv

instance (iv : Bytes) (source : IvSource) : Decidable (Fixes iv source) := by
  unfold Fixes; infer_instance

/-- Parameters with room for a tag of up to 128 bits. -/
def makeGcm (iv : Bytes) (source : IvSource) (tagBits : Code) : Except Error MessageParams :=
  if tagBits ≤ 128 ∧ Fixes iv source then
    .ok (.gcm iv source (List.replicate (bytesFor tagBits) 0))
  else .error .badArguments

/-- Parameters with a nonce of 7 to 13 bytes and room for an authenticator of 4 to 16 bytes. -/
def makeCcm (dataLen : Code) (nonce : Bytes) (source : IvSource) (macLen : Code) :
    Except Error MessageParams :=
  if IsCcmNonce nonce ∧ 4 ≤ macLen ∧ macLen ≤ 16 ∧ Fixes nonce source then
    .ok (.ccm dataLen nonce source (List.replicate macLen.toNat 0))
  else .error .badArguments

/-- Parameters with a nonce of 8, 12 or 24 bytes and room for a tag of 16 bytes. -/
def makeChaCha20Poly1305 (nonce : Bytes) : Except Error MessageParams :=
  if IsChaChaNonce nonce then .ok (.chaCha20Poly1305 nonce (List.replicate 16 0))
  else .error .badArguments

/-- The authentication tag. -/
def tag : MessageParams → Bytes
  | gcm _ _ tag => tag
  | ccm _ _ _ mac => mac
  | chaCha20Poly1305 _ tag => tag

/-- The initial vector or nonce. -/
def iv : MessageParams → Bytes
  | gcm iv _ _ => iv
  | ccm _ nonce _ _ => nonce
  | chaCha20Poly1305 nonce _ => nonce

/-- The parameters with another tag. -/
def withTag (tag : Bytes) : MessageParams → MessageParams
  | gcm iv source _ => gcm iv source tag
  | ccm dataLen nonce source _ => ccm dataLen nonce source tag
  | chaCha20Poly1305 nonce _ => chaCha20Poly1305 nonce tag

/-- The parameters with another initial vector. -/
def withIv (iv : Bytes) : MessageParams → MessageParams
  | gcm _ source tag => gcm iv source tag
  | ccm dataLen _ source mac => ccm dataLen iv source mac
  | chaCha20Poly1305 _ tag => chaCha20Poly1305 iv tag

end MessageParams

end TokenClient
