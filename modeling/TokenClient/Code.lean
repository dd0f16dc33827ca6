/-!
# Codes and bytes

Everything a token and its client name to each other — attribute types, object classes, key types,
mechanisms, flags, handles, sizes and return values — is an unsigned 64-bit word. The words stay
words here: no enumeration could hold them, because a vendor may assign any code that carries the
vendor bit, and a client has to pass through the ones it has never heard of.
-/

namespace TokenClient

/-- An unsigned 64-bit word that a token and its client exchange. -/
abbrev Code := UInt64

/-- A byte string. -/
abbrev Bytes := List UInt8

namespace Code

/-- The bit that sets vendor assigned codes apart from the standard ones. -/
def vendorBit : Code := 0x80000000

/-- Whether a code lies in the vendor defined range. -/
def isVendor (code : Code) : Bool := code &&& vendorBit != 0

/-- The number a vendor gave: the code with the vendor bit cleared. -/
def vendorNumber (code : Code) : Code := code &&& ~~~vendorBit

/-- Whether a code has at least one bit of `mask`. -/
def meets (code mask : Code) : Bool := code &&& mask != 0

end Code

/-- Exactly `length` bytes: what is beyond is cut off, what is missing is zero. -/
def Bytes.fit (length : Nat) (bytes : Bytes) : Bytes :=
  bytes.take length ++ List.replicate (length - bytes.length) 0

/-- Bytes that are fitted to a length have this length. -/
@[simp]
theorem Bytes.length_fit (length : Nat) (bytes : Bytes) : (Bytes.fit length bytes).length = length := by
  simp [Bytes.fit]
  omega

end TokenClient
