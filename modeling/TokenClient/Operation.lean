import TokenClient.Code.Flag

/-!
# Operations

The twelve kinds of operations that can run on a session over several calls, and sets of them. A set
lists its members in the order of `Operation.all`, so that equal sets are equal lists.
-/

namespace TokenClient

/-- A kind of operation that runs on a session. -/
inductive Operation where
  | encrypt
  | decrypt
  | digest
  | sign
  | signRecover
  | verify
  | verifyRecover
  | messageEncrypt
  | messageDecrypt
  | messageSign
  | messageVerify
  | find
deriving DecidableEq, Repr

namespace Operation

/-- All kinds, in the order in which sets list them. -/
def all : List Operation :=
  [encrypt, decrypt, digest, sign, signRecover, verify, verifyRecover, messageEncrypt, messageDecrypt,
    messageSign, messageVerify, find]

/-- The name of a kind in the text of a set. -/
def name : Operation → String
  | encrypt => "ENCRYPT"
  | decrypt => "DECRYPT"
  | digest => "DIGEST"
  | sign => "SIGN"
  | signRecover => "SIGN_RECOVER"
  | verify => "VERIFY"
  | verifyRecover => "VERIFY_RECOVER"
  | messageEncrypt => "MESSAGE_ENCRYPT"
  | messageDecrypt => "MESSAGE_DECRYPT"
  | messageSign => "MESSAGE_SIGN"
  | messageVerify => "MESSAGE_VERIFY"
  | find => "FIND"

/-- The flag that names a kind when operations are cancelled. -/
def cancelFlag : Operation → Code
  | encrypt => Flag.encrypt
  | decrypt => Flag.decrypt
  | digest => Flag.digest
  | sign => Flag.sign
  | signRecover => Flag.signRecover
  | verify => Flag.verify
  | verifyRecover => Flag.verifyRecover
  | messageEncrypt => Flag.messageEncrypt
  | messageDecrypt => Flag.messageDecrypt
  | messageSign => Flag.messageSign
  | messageVerify => Flag.messageVerify
  | find => Flag.findObjects

/-- Whether a kind works message by message. -/
def isMessage : Operation → Bool
  | messageEncrypt | messageDecrypt | messageSign | messageVerify => true
  | _ => false

/-- Whether a kind tolerates no other kind beside it: searches and the message kinds. -/
def isExclusive (op : Operation) : Bool := op == find || op.isMessage

/-- No operation is missing from the list of all of them. -/
theorem mem_all (op : Operation) : op ∈ all := by cases op <;> decide

end Operation

/-- A set of operations, listed in the order of `Operation.all`. -/
structure OperationSet where
  toList : List Operation
deriving DecidableEq, Repr

namespace OperationSet

/-- The operations that satisfy a condition. -/
def ofPred (p : Operation → Bool) : OperationSet := ⟨Operation.all.filter p⟩

/-- The set without members. -/
def empty : OperationSet := ⟨[]⟩

/-- The set of one operation. -/
def single (op : Operation) : OperationSet := ofPred (· == op)

/-- The set of the operations in a list. -/
def ofList (ops : List Operation) : OperationSet := ofPred ops.contains

/-- Whether an operation is in a set. -/
def contains (s : OperationSet) (op : Operation) : Bool := s.toList.contains op

/-- Whether a set has no members. -/
def isEmpty (s : OperationSet) : Bool := s.toList.isEmpty

/-- The set with an operation added. -/
def insert (s : OperationSet) (op : Operation) : OperationSet :=
  ofPred fun o => o == op || s.contains o

/-- The set without the members of another. -/
def diff (s t : OperationSet) : OperationSet := ofPred fun o => s.contains o && !t.contains o

/-- Whether some member of a set satisfies a condition. -/
def any (s : OperationSet) (p : Operation → Bool) : Bool := s.toList.any p

/-- The operations that a combination of cancel flags names. -/
def ofCancelFlags (flags : Code) : OperationSet := ofPred fun op => flags.meets op.cancelFlag

/-- The pairs of operations that a token runs at the same time. -/
def dualPairs : List OperationSet :=
  [ofList [.digest, .encrypt], ofList [.decrypt, .digest], ofList [.sign, .encrypt],
    ofList [.decrypt, .verify]]

/-- The text of a set. -/
def display (s : OperationSet) : String := Flag.setText "ActiveOps" (s.toList.map Operation.name)

/-- The operations of a predicate are those for which it holds. -/
@[simp]
theorem contains_ofPred (p : Operation → Bool) (op : Operation) :
    (ofPred p).contains op = p op := by
  simp [ofPred, contains, Operation.mem_all]

/-- No operation is in the empty set. -/
@[simp]
theorem contains_empty (op : Operation) : empty.contains op = false := rfl

/-- The set of a single operation has no other one. -/
@[simp]
theorem contains_single (op o : Operation) : (single op).contains o = (o == op) := by
  simp [single]

/-- The set of a list has the operations of the list. -/
@[simp]
theorem contains_ofList (ops : List Operation) (o : Operation) :
    (ofList ops).contains o = ops.contains o := by
  simp [ofList]

/-- A set with an operation added has this one besides its own. -/
@[simp]
theorem contains_insert (s : OperationSet) (op o : Operation) :
    (s.insert op).contains o = (o == op || s.contains o) := by
  simp [insert]

/-- What is left of a set are the operations that the other one does not have. -/
@[simp]
theorem contains_diff (s t : OperationSet) (o : Operation) :
    (s.diff t).contains o = (s.contains o && !t.contains o) := by
  simp [diff]

/-- Flags name an operation if they have a bit of its flag. -/
@[simp]
theorem contains_ofCancelFlags (flags : Code) (op : Operation) :
    (ofCancelFlags flags).contains op = flags.meets op.cancelFlag := by
  simp [ofCancelFlags]

end OperationSet

end TokenClient
