import TokenClient.Code

/-!
# Big numbers as bytes

Key material such as a modulus is a natural number without bound, held as bytes with the most
significant one first and without leading zeros; zero is one zero byte.
-/

namespace TokenClient.BigNat

/-- The bytes of a number. -/
def toBytes (n : Nat) : Bytes :=
  if n < 256 then [UInt8.ofNat n] else toBytes (n / 256) ++ [UInt8.ofNat (n % 256)]
termination_by n
decreasing_by omega

/-- The number that bytes write, leading zeros allowed. -/
def ofBytes (bytes : Bytes) : Nat := bytes.foldl (fun n b => 256 * n + b.toNat) 0

end TokenClient.BigNat
