import TokenClient.Code

/-!
# A toy cipher and a toy hash

The cipher combines every byte with one key byte by exclusive or, so that it is its own inverse. Fed piece
by piece it lets go of whole blocks of 16 bytes and keeps the rest until the end. The hash is the 32-bit
FNV-1a hash, and an authentication code is the hash of the key byte followed by the data. None of this
protects anything; it gives a client something with a state to talk to.
-/

namespace TokenClient.SoftToken

/-- How many bytes the cipher lets go at a time. -/
def blockSize : Nat := 16

/-- Data under a key byte. -/
def mask (key : UInt8) (data : Bytes) : Bytes := data.map (· ^^^ key)

/-- Data may be masked in pieces. -/
@[simp]
theorem mask_append (key : UInt8) (a b : Bytes) : mask key (a ++ b) = mask key a ++ mask key b := by
  simp [mask]

/-- Masking changes no length. -/
@[simp]
theorem length_mask (key : UInt8) (data : Bytes) : (mask key data).length = data.length := by
  simp [mask]

private theorem xor_cancel_right (byte key : UInt8) : byte ^^^ key ^^^ key = byte := by
  rw [UInt8.xor_assoc, UInt8.xor_self, UInt8.xor_zero]

/-- A mask taken twice is none. -/
@[simp]
theorem mask_mask (key : UInt8) (data : Bytes) : mask key (mask key data) = data := by
  rw [mask, mask, List.map_map]
  exact (List.map_congr_left fun byte _ => xor_cancel_right byte key).trans (List.map_id data)

/-- A running cipher: its key byte, and what it has been fed and not let go. -/
structure Cipher where
  key : UInt8
  pending : Bytes
deriving DecidableEq, Repr

namespace Cipher

/-- A cipher that has been fed nothing. -/
def start (key : UInt8) : Cipher := ⟨key, []⟩

/-- The length of the whole blocks in a number of bytes. -/
def wholeBlocks (length : Nat) : Nat := length - length % blockSize

/-- What a cipher lets go when it is fed. -/
def released (cipher : Cipher) (data : Bytes) : Bytes :=
  let fed := cipher.pending ++ data
  mask cipher.key (fed.take (wholeBlocks fed.length))

/-- A cipher after it is fed. -/
def feed (cipher : Cipher) (data : Bytes) : Cipher :=
  let fed := cipher.pending ++ data
  { cipher with pending := fed.drop (wholeBlocks fed.length) }

/-- What a cipher lets go at the end. -/
def rest (cipher : Cipher) : Bytes := mask cipher.key cipher.pending

end Cipher

/-- One round of the hash. -/
def hashByte (state : UInt32) (byte : UInt8) : UInt32 := (state ^^^ byte.toUInt32) * 0x01000193

/-- The bytes of a word, the most significant one first. -/
def bigEndian (word : UInt32) : Bytes :=
  [(word >>> 24).toUInt8, (word >>> 16).toUInt8, (word >>> 8).toUInt8, word.toUInt8]

/-- The hash of data. -/
def hash (data : Bytes) : Bytes := bigEndian (data.foldl hashByte 0x811C9DC5)

/-- The authentication code of data under a key byte. -/
def keyedHash (key : UInt8) (data : Bytes) : Bytes := hash (key :: data)

end TokenClient.SoftToken
