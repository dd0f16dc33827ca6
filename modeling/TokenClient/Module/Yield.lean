import TokenClient.Attribute.Basic
import TokenClient.Mechanism.Capability
import TokenClient.Module.Info
import TokenClient.Room

/-!
# What calls yield

The few kinds of values that calls end in. Giving each call its kind, and each kind its type, lets one
speak of the results of all calls at once.
-/

namespace TokenClient

/-- A kind of value that a call yields. -/
inductive Yield where
  | nothing
  | bool
  | code
  | number
  | bytes
  | text
  | codePair
  | moduleInfo
  | slotInfo
  | tokenInfo
  | sessionInfo
  | mechanismInfo
  | attr
  | template
  | optional (yield : Yield)
  | list (yield : Yield)
  | attempt (yield : Yield)
deriving DecidableEq, Repr

/-- The values of a kind. -/
@[reducible]
def Yield.Value : Yield → Type
  | nothing => Unit
  | bool => Bool
  | code => Code
  | number => Nat
  | bytes => Bytes
  | text => String
  | codePair => Code × Code
  | moduleInfo => ModuleInfo
  | slotInfo => SlotInfo
  | tokenInfo => TokenInfo
  | sessionInfo => SessionInfo
  | mechanismInfo => MechanismInfo
  | attr => Attribute
  | template => Template
  | optional yield => Option yield.Value
  | list yield => List yield.Value
  | attempt yield => Attempt yield.Value

end TokenClient
