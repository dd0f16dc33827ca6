import TokenClient.Code.Name

/-!
# Attribute types

What kind of value each known attribute type holds, and the names of attribute types. The table is kept
in the order of the codes and searched by halving.
-/

namespace TokenClient

/-- The kinds of values that attributes hold. -/
inductive Kind where
  | bool
  | number
  | bytes
  | text
  | date
  | mechanism
  | mechanisms
  | template
deriving DecidableEq, Repr

namespace AttributeType

def objectClass : Code := 0x0
def value : Code := 0x11
def keyType : Code := 0x100
def sensitive : Code := 0x103

/-- A known attribute type. -/
structure Entry where
  type : Code
  name : String
  kind : Kind
deriving Repr

/-- The known attribute types, in increasing order of their codes. -/
def table : Array Entry :=
  #[⟨0x0, "CKA_CLASS", .number⟩,
    ⟨0x1, "CKA_TOKEN", .bool⟩,
    ⟨0x2, "CKA_PRIVATE", .bool⟩,
    ⟨0x3, "CKA_LABEL", .text⟩,
    ⟨0x4, "CKA_UNIQUE_ID", .text⟩,
    ⟨0x10, "CKA_APPLICATION", .text⟩,
    ⟨0x11, "CKA_VALUE", .bytes⟩,
    ⟨0x12, "CKA_OBJECT_ID", .bytes⟩,
    ⟨0x80, "CKA_CERTIFICATE_TYPE", .number⟩,
    ⟨0x81, "CKA_ISSUER", .bytes⟩,
    ⟨0x82, "CKA_SERIAL_NUMBER", .bytes⟩,
    ⟨0x83, "CKA_AC_ISSUER", .bytes⟩,
    ⟨0x84, "CKA_OWNER", .bytes⟩,
    ⟨0x85, "CKA_ATTR_TYPES", .bytes⟩,
    ⟨0x86, "CKA_TRUSTED", .bool⟩,
    ⟨0x87, "CKA_CERTIFICATE_CATEGORY", .number⟩,
    ⟨0x88, "CKA_JAVA_MIDP_SECURITY_DOMAIN", .number⟩,
    ⟨0x89, "CKA_URL", .text⟩,
    ⟨0x8A, "CKA_HASH_OF_SUBJECT_PUBLIC_KEY", .bytes⟩,
    ⟨0x8B, "CKA_HASH_OF_ISSUER_PUBLIC_KEY", .bytes⟩,
    ⟨0x8C, "CKA_NAME_HASH_ALGORITHM", .mechanism⟩,
    ⟨0x90, "CKA_CHECK_VALUE", .bytes⟩,
    ⟨0x100, "CKA_KEY_TYPE", .number⟩,
    ⟨0x101, "CKA_SUBJECT", .bytes⟩,
    ⟨0x102, "CKA_ID", .bytes⟩,
    ⟨0x103, "CKA_SENSITIVE", .bool⟩,
    ⟨0x104, "CKA_ENCRYPT", .bool⟩,
    ⟨0x105, "CKA_DECRYPT", .bool⟩,
    ⟨0x106, "CKA_WRAP", .bool⟩,
    ⟨0x107, "CKA_UNWRAP", .bool⟩,
    ⟨0x108, "CKA_SIGN", .bool⟩,
    ⟨0x109, "CKA_SIGN_RECOVER", .bool⟩,
    ⟨0x10A, "CKA_VERIFY", .bool⟩,
    ⟨0x10B, "CKA_VERIFY_RECOVER", .bool⟩,
    ⟨0x10C, "CKA_DERIVE", .bool⟩,
    ⟨0x110, "CKA_START_DATE", .date⟩,
    ⟨0x111, "CKA_END_DATE", .date⟩,
    ⟨0x120, "CKA_MODULUS", .bytes⟩,
    ⟨0x121, "CKA_MODULUS_BITS", .number⟩,
    ⟨0x122, "CKA_PUBLIC_EXPONENT", .bytes⟩,
    ⟨0x123, "CKA_PRIVATE_EXPONENT", .bytes⟩,
    ⟨0x124, "CKA_PRIME_1", .bytes⟩,
    ⟨0x125, "CKA_PRIME_2", .bytes⟩,
    ⟨0x126, "CKA_EXPONENT_1", .bytes⟩,
    ⟨0x127, "CKA_EXPONENT_2", .bytes⟩,
    ⟨0x128, "CKA_COEFFICIENT", .bytes⟩,
    ⟨0x129, "CKA_PUBLIC_KEY_INFO", .bytes⟩,
    ⟨0x130, "CKA_PRIME", .bytes⟩,
    ⟨0x131, "CKA_SUBPRIME", .bytes⟩,
    ⟨0x132, "CKA_BASE", .bytes⟩,
    ⟨0x133, "CKA_PRIME_BITS", .number⟩,
    ⟨0x134, "CKA_SUBPRIME_BITS", .number⟩,
    ⟨0x160, "CKA_VALUE_BITS", .number⟩,
    ⟨0x161, "CKA_VALUE_LEN", .number⟩,
    ⟨0x162, "CKA_EXTRACTABLE", .bool⟩,
    ⟨0x163, "CKA_LOCAL", .bool⟩,
    ⟨0x164, "CKA_NEVER_EXTRACTABLE", .bool⟩,
    ⟨0x165, "CKA_ALWAYS_SENSITIVE", .bool⟩,
    ⟨0x166, "CKA_KEY_GEN_MECHANISM", .mechanism⟩,
    ⟨0x170, "CKA_MODIFIABLE", .bool⟩,
    ⟨0x171, "CKA_COPYABLE", .bool⟩,
    ⟨0x172, "CKA_DESTROYABLE", .bool⟩,
    ⟨0x180, "CKA_EC_PARAMS", .bytes⟩,
    ⟨0x181, "CKA_EC_POINT", .bytes⟩,
    ⟨0x202, "CKA_ALWAYS_AUTHENTICATE", .bool⟩,
    ⟨0x210, "CKA_WRAP_WITH_TRUSTED", .bool⟩,
    ⟨0x250, "CKA_GOSTR3410_PARAMS", .bytes⟩,
    ⟨0x251, "CKA_GOSTR3411_PARAMS", .bytes⟩,
    ⟨0x252, "CKA_GOST28147_PARAMS", .bytes⟩,
    ⟨0x300, "CKA_HW_FEATURE_TYPE", .number⟩,
    ⟨0x301, "CKA_RESET_ON_INIT", .bool⟩,
    ⟨0x302, "CKA_HAS_RESET", .bool⟩,
    ⟨0x500, "CKA_MECHANISM_TYPE", .mechanism⟩,
    ⟨0x601, "CKA_PROFILE_ID", .number⟩,
    ⟨0x40000211, "CKA_WRAP_TEMPLATE", .template⟩,
    ⟨0x40000212, "CKA_UNWRAP_TEMPLATE", .template⟩,
    ⟨0x40000213, "CKA_DERIVE_TEMPLATE", .template⟩,
    ⟨0x40000600, "CKA_ALLOWED_MECHANISMS", .mechanisms⟩]

/-- Searches the entries from `low` up to but without `high` for a type, halving the stretch at most
`fuel` times. -/
def search (entries : Array Entry) (type : Code) : (fuel low high : Nat) → Option Entry
  | 0, _, _ => none
  | fuel + 1, low, high =>
    if low < high then
      let middle := low + (high - low) / 2
      match entries[middle]? with
      | none => none
      | some entry =>
        if entry.type = type then some entry
        else if entry.type < type then search entries type fuel (middle + 1) high
        else search entries type fuel low middle
    else none

/-- The entry of an attribute type. -/
def find? (type : Code) : Option Entry := search table type table.size 0 table.size

/-- The kind of value that a known attribute type holds. -/
def kind? (type : Code) : Option Kind := (find? type).map (·.kind)

/-- The attribute type of a name. -/
def ofName? (name : String) : Option Code := (table.find? (·.name == name)).map (·.type)

/-- The name of an attribute type. An unknown type is named by its number, marked if a vendor
assigned it. -/
def name (type : Code) : String :=
  match find? type with
  | some entry => entry.name
  | none =>
    if type.isVendor then "VENDOR_DEFINED [0x" ++ String.ofList (Text.hexCode type) ++ "]"
    else "0x" ++ String.ofList (Text.hexCode8 type)

end AttributeType

end TokenClient
