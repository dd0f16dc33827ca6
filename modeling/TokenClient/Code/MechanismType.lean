import TokenClient.Code.Name

/-!
# Mechanism codes

The standard mechanisms, and generic codes for mechanisms outside the standard to which every vendor
gives a code of its own.
-/

namespace TokenClient.MechanismType

def sha256 : Code := 0x250
def sha256Hmac : Code := 0x251
def ecKeyPairGen : Code := 0x1040
def aesKeyGen : Code := 0x1080
def aesEcb : Code := 0x1081
def aesGcm : Code := 0x1087

/-- The standard mechanisms. -/
def standard : List (Code × String) :=
  [(0x0, "CKM_RSA_PKCS_KEY_PAIR_GEN"),
   (0x1, "CKM_RSA_PKCS"),
   (0x3, "CKM_RSA_X_509"),
   (0x9, "CKM_RSA_PKCS_OAEP"),
   (0xD, "CKM_RSA_PKCS_PSS"),
   (0x10, "CKM_DSA_KEY_PAIR_GEN"),
   (0x11, "CKM_DSA"),
   (0x14, "CKM_DSA_SHA256"),
   (0x20, "CKM_DH_PKCS_KEY_PAIR_GEN"),
   (0x21, "CKM_DH_PKCS_DERIVE"),
   (0x30, "CKM_X9_42_DH_KEY_PAIR_GEN"),
   (0x31, "CKM_X9_42_DH_DERIVE"),
   (0x32, "CKM_X9_42_DH_HYBRID_DERIVE"),
   (0x40, "CKM_SHA256_RSA_PKCS"),
   (0x43, "CKM_SHA256_RSA_PKCS_PSS"),
   (0x102, "CKM_RC2_CBC"),
   (0x131, "CKM_DES3_KEY_GEN"),
   (0x132, "CKM_DES3_ECB"),
   (0x133, "CKM_DES3_CBC"),
   (0x136, "CKM_DES3_CBC_PAD"),
   (0x220, "CKM_SHA_1"),
   (0x221, "CKM_SHA_1_HMAC"),
   (0x250, "CKM_SHA256"),
   (0x251, "CKM_SHA256_HMAC"),
   (0x260, "CKM_SHA384"),
   (0x270, "CKM_SHA512"),
   (0x334, "CKM_RC5_MAC_GENERAL"),
   (0x350, "CKM_GENERIC_SECRET_KEY_GEN"),
   (0x362, "CKM_CONCATENATE_BASE_AND_DATA"),
   (0x365, "CKM_EXTRACT_KEY_FROM_KEY"),
   (0x3A8, "CKM_PBE_SHA1_DES3_EDE_CBC"),
   (0x3B0, "CKM_PKCS5_PBKD2"),
   (0x1010, "CKM_KEA_KEY_PAIR_GEN"),
   (0x1011, "CKM_KEA_KEY_DERIVE"),
   (0x1040, "CKM_EC_KEY_PAIR_GEN"),
   (0x1041, "CKM_ECDSA"),
   (0x1044, "CKM_ECDSA_SHA256"),
   (0x1050, "CKM_ECDH1_DERIVE"),
   (0x1055, "CKM_EC_EDWARDS_KEY_PAIR_GEN"),
   (0x1057, "CKM_EDDSA"),
   (0x1080, "CKM_AES_KEY_GEN"),
   (0x1081, "CKM_AES_ECB"),
   (0x1082, "CKM_AES_CBC"),
   (0x1083, "CKM_AES_MAC"),
   (0x1084, "CKM_AES_MAC_GENERAL"),
   (0x1085, "CKM_AES_CBC_PAD"),
   (0x1086, "CKM_AES_CTR"),
   (0x1087, "CKM_AES_GCM"),
   (0x1088, "CKM_AES_CCM"),
   (0x108A, "CKM_AES_CMAC"),
   (0x1100, "CKM_DES_ECB_ENCRYPT_DATA"),
   (0x1101, "CKM_DES_CBC_ENCRYPT_DATA"),
   (0x1102, "CKM_DES3_ECB_ENCRYPT_DATA"),
   (0x1103, "CKM_DES3_CBC_ENCRYPT_DATA"),
   (0x1104, "CKM_AES_ECB_ENCRYPT_DATA"),
   (0x1105, "CKM_AES_CBC_ENCRYPT_DATA"),
   (0x1225, "CKM_CHACHA20_KEY_GEN"),
   (0x1226, "CKM_CHACHA20"),
   (0x2109, "CKM_AES_KEY_WRAP"),
   (0x210A, "CKM_AES_KEY_WRAP_PAD"),
   (0x402A, "CKM_HKDF_DERIVE"),
   (0x4022, "CKM_SALSA20_POLY1305"),
   (0x4021, "CKM_CHACHA20_POLY1305")]

/-- The generic codes of mechanisms that vendors number themselves. -/
def generic : List (Code × String) :=
  [(0xFFFFF001, "CKM_VENDOR_SM2_KEY_PAIR_GEN"),
   (0xFFFFF002, "CKM_VENDOR_SM2_SM3"),
   (0xFFFFF003, "CKM_VENDOR_SM2"),
   (0xFFFFF004, "CKM_VENDOR_SM2_ENCRYPT"),
   (0xFFFFF005, "CKM_VENDOR_SM3"),
   (0xFFFFF006, "CKM_VENDOR_SM4_KEY_GEN"),
   (0xFFFFF007, "CKM_VENDOR_SM4_CBC"),
   (0xFFFFF008, "CKM_VENDOR_SM4_ECB"),
   (0xFFFFF009, "CKM_VENDOR_SM4_MAC_GENERAL"),
   (0xFFFFF00A, "CKM_VENDOR_SM4_MAC")]

/-- The family of mechanisms. -/
def naming : Naming where
  family := "CKM"
  table := standard ++ generic

/-- The name of a mechanism. -/
def name (mechanism : Code) : String := naming.name mechanism

/-- The mechanism that a name or a hexadecimal literal stands for. -/
def ofName? (text : String) : Option Code := naming.code? text

end TokenClient.MechanismType
