import TokenClient.Error

/-!
# Words as bytes

A word travels as eight bytes, the least significant one first, and an array of words as their bytes one
after the other. A module built for a smaller word may answer with fewer bytes, so one to eight bytes
are read and the missing ones count as zero.
-/

namespace TokenClient.Word

/-- How many bytes a word has. -/
def size : Nat := 8

/-- The lowest `count` digits of a number to the base 256, the least significant one first. -/
def digits : (count n : Nat) → Bytes
  | 0, _ => []
  | count + 1, n => UInt8.ofNat (n % 256) :: digits count (n / 256)

/-- The number that digits to the base 256 write, the least significant one first. -/
def number : Bytes → Nat
  | [] => 0
  | b :: bytes => b.toNat + 256 * number bytes

/-- The eight bytes of a word. -/
def toBytes (word : Code) : Bytes := digits size word.toNat

/-- The word that one to eight bytes write. -/
def ofBytes (bytes : Bytes) : Except Error Code :=
  if bytes.length = 0 ∨ size < bytes.length then .error (.token Rv.attributeValueInvalid)
  else .ok (UInt64.ofNat (number bytes))

/-- The bytes of an array of words. -/
def arrayToBytes (words : List Code) : Bytes := words.flatMap toBytes

/-- The first `count` words of a byte string that holds at least as many. -/
def words : (count : Nat) → Bytes → List Code
  | 0, _ => []
  | count + 1, bytes => UInt64.ofNat (number (bytes.take size)) :: words count (bytes.drop size)

/-- The array of words that a byte string holds, if it ends with a whole word. -/
def arrayOfBytes (bytes : Bytes) : Except Error (List Code) :=
  if bytes.length % size = 0 then .ok (words (bytes.length / size) bytes)
  else .error (.token Rv.attributeValueInvalid)

end TokenClient.Word
