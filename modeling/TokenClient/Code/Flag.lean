import TokenClient.Code.Name

/-!
# Flags

The single bits that describe mechanisms, slots, tokens and sessions, and the text of a set of flags.
-/

namespace TokenClient.Flag

/-! ## Mechanisms and operations -/

def hw : Code := 0x1
def messageEncrypt : Code := 0x2
def messageDecrypt : Code := 0x4
def messageSign : Code := 0x8
def messageVerify : Code := 0x10
def multiMessage : Code := 0x20
def findObjects : Code := 0x40
def encrypt : Code := 0x100
def decrypt : Code := 0x200
def digest : Code := 0x400
def sign : Code := 0x800
def signRecover : Code := 0x1000
def verify : Code := 0x2000
def verifyRecover : Code := 0x4000
def generate : Code := 0x8000
def generateKeyPair : Code := 0x10000
def wrap : Code := 0x20000
def unwrap : Code := 0x40000
def derive : Code := 0x80000
def ecFp : Code := 0x100000
def ecF2m : Code := 0x200000
def ecParameters : Code := 0x400000
def ecOid : Code := 0x800000
def ecUncompress : Code := 0x1000000
def ecCompress : Code := 0x2000000
def ecCurveName : Code := 0x4000000
def extension : Code := 0x80000000

/-- The mechanism flags that have a name, from the lowest bit up. -/
def mechanismNames : List (Code × String) :=
  [(hw, "HW"), (messageEncrypt, "MESSAGE_ENCRYPT"), (messageDecrypt, "MESSAGE_DECRYPT"),
   (messageSign, "MESSAGE_SIGN"), (messageVerify, "MESSAGE_VERIFY"), (multiMessage, "MULTI_MESSAGE"),
   (findObjects, "FIND_OBJECTS"), (encrypt, "ENCRYPT"), (decrypt, "DECRYPT"), (digest, "DIGEST"),
   (sign, "SIGN"), (signRecover, "SIGN_RECOVER"), (verify, "VERIFY"), (verifyRecover, "VERIFY_RECOVER"),
   (generate, "GENERATE"), (generateKeyPair, "GENERATE_KEY_PAIR"), (wrap, "WRAP"), (unwrap, "UNWRAP"),
   (derive, "DERIVE"), (ecFp, "EC_F_P"), (ecF2m, "EC_F_2M"), (ecParameters, "EC_ECPARAMETERS"),
   (ecOid, "EC_OID"), (ecUncompress, "EC_UNCOMPRESS"), (ecCompress, "EC_COMPRESS"),
   (ecCurveName, "EC_CURVENAME"), (extension, "EXTENSION")]

/-! ## Slots, tokens, sessions and messages -/

def tokenPresent : Code := 0x1
def loginRequired : Code := 0x4
def tokenInitialized : Code := 0x400
def rwSession : Code := 0x2
def serialSession : Code := 0x4
def endOfMessage : Code := 0x1

/-- The text of a set of flags: the given names joined by bars, or a lone zero where there is none. -/
def setText (family : String) (names : List String) : String :=
  family ++ "(" ++ (if names.isEmpty then "0x0" else String.intercalate " | " names) ++ ")"

/-- The text of mechanism flags: the named bits first, what remains as one number. -/
def mechanismText (flags : Code) : String :=
  let named := mechanismNames.filter (flags.meets ·.1)
  let rest := named.foldl (fun left (bit, _) => left &&& ~~~bit) flags
  let unnamed := if rest == 0 then [] else ["0x" ++ String.ofList (Text.hexCodeLower rest)]
  setText "MechanismFlags" (named.map (·.2) ++ unnamed)

end TokenClient.Flag
