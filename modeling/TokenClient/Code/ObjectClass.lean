import TokenClient.Code.Name

/-!
# Object classes
-/

namespace TokenClient.ObjectClass

/-- The family of object classes. -/
def naming : Naming where
  family := "CKO"
  table :=
    [(0x0, "CKO_DATA"),
     (0x1, "CKO_CERTIFICATE"),
     (0x2, "CKO_PUBLIC_KEY"),
     (0x3, "CKO_PRIVATE_KEY"),
     (0x4, "CKO_SECRET_KEY"),
     (0x5, "CKO_HW_FEATURE"),
     (0x6, "CKO_DOMAIN_PARAMETERS"),
     (0x7, "CKO_MECHANISM"),
     (0x8, "CKO_OTP_KEY"),
     (0x9, "CKO_PROFILE")]

/-- The name of an object class. -/
def name (objectClass : Code) : String := naming.name objectClass

end TokenClient.ObjectClass
