import TokenClient.Code.Name

/-!
# Key types

The standard key types, and generic codes for algorithms outside the standard to which every vendor
gives a code of its own.
-/

namespace TokenClient.KeyType

/-- The standard key types. -/
def standard : List (Code × String) :=
  [(0x0, "CKK_RSA"),
   (0x1, "CKK_DSA"),
   (0x2, "CKK_DH"),
   (0x3, "CKK_EC"),
   (0x4, "CKK_X9_42_DH"),
   (0x5, "CKK_KEA"),
   (0x10, "CKK_GENERIC_SECRET"),
   (0x11, "CKK_RC2"),
   (0x12, "CKK_RC4"),
   (0x13, "CKK_DES"),
   (0x14, "CKK_DES2"),
   (0x15, "CKK_DES3"),
   (0x19, "CKK_RC5"),
   (0x1F, "CKK_AES"),
   (0x2B, "CKK_SHA256_HMAC"),
   (0x33, "CKK_CHACHA20"),
   (0x34, "CKK_POLY1305"),
   (0x40, "CKK_EC_EDWARDS"),
   (0x41, "CKK_EC_MONTGOMERY"),
   (0x42, "CKK_HKDF")]

/-- The generic codes of key types that vendors number themselves. -/
def generic : List (Code × String) :=
  [(0xFFFFF001, "CKK_VENDOR_SM2"),
   (0xFFFFF002, "CKK_VENDOR_SM4")]

/-- The family of key types. -/
def naming : Naming where
  family := "CKK"
  table := standard ++ generic

/-- The name of a key type. -/
def name (keyType : Code) : String := naming.name keyType

/-- The key type that a name or a hexadecimal literal stands for. -/
def ofName? (text : String) : Option Code := naming.code? text

end TokenClient.KeyType
