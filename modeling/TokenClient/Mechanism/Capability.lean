import TokenClient.Code.Flag

/-!
# Capabilities of mechanisms

The key sizes and flags that a token states for a mechanism, and whether they meet a requirement.
-/

namespace TokenClient

/-- The key sizes and flags of a mechanism. Flags without a name are kept. -/
structure MechanismInfo where
  minKeySize : Code
  maxKeySize : Code
  flags : Code
deriving DecidableEq, Repr, Inhabited

namespace MechanismInfo

/-- Whether a capability meets a requirement. A key size of zero asks for nothing; otherwise the greatest
size asked for must not exceed the greatest one offered, nor the least one asked for fall short of the
least one offered, and all flags asked for must be set. -/
def supports (own required : MechanismInfo) : Bool :=
  (required.maxKeySize == 0 || required.maxKeySize ≤ own.maxKeySize) &&
    (required.minKeySize == 0 || own.minKeySize ≤ required.minKeySize) &&
    own.flags &&& required.flags == required.flags

/-- The text of a capability. -/
def display (info : MechanismInfo) : String :=
  "Minimum Key-Size: " ++ toString info.minKeySize.toNat ++
    ", Maximum Key-Size: " ++ toString info.maxKeySize.toNat ++
    ", Flags: " ++ Flag.mechanismText info.flags

end MechanismInfo

end TokenClient
