import TokenClient.Code.Name

/-!
# Return values

What a token answers when a call fails, and the names under which such an answer is shown.
-/

namespace TokenClient.Rv

def ok : Code := 0x0
def slotIdInvalid : Code := 0x3
def generalError : Code := 0x5
def functionFailed : Code := 0x6
def argumentsBad : Code := 0x7
def attributeSensitive : Code := 0x11
def attributeTypeInvalid : Code := 0x12
def attributeValueInvalid : Code := 0x13
def aeadDecryptFailed : Code := 0x42
def functionNotParallel : Code := 0x51
def functionNotSupported : Code := 0x54
def keyHandleInvalid : Code := 0x60
def keyTypeInconsistent : Code := 0x63
def mechanismInvalid : Code := 0x70
def objectHandleInvalid : Code := 0x82
def operationActive : Code := 0x90
def operationNotInitialized : Code := 0x91
def pinIncorrect : Code := 0xA0
def sessionHandleInvalid : Code := 0xB3
def sessionParallelNotSupported : Code := 0xB4
def sessionReadOnly : Code := 0xB5
def signatureInvalid : Code := 0xC0
def tokenNotPresent : Code := 0xE0
def userAlreadyLoggedIn : Code := 0x100
def userNotLoggedIn : Code := 0x101
def userTypeInvalid : Code := 0x103
def functionRejected : Code := 0x200

/-- The family of return values. -/
def naming : Naming where
  family := "CKR"
  table :=
    [(0x0, "CKR_OK"),
     (0x1, "CKR_CANCEL"),
     (0x2, "CKR_HOST_MEMORY"),
     (0x3, "CKR_SLOT_ID_INVALID"),
     (0x5, "CKR_GENERAL_ERROR"),
     (0x6, "CKR_FUNCTION_FAILED"),
     (0x7, "CKR_ARGUMENTS_BAD"),
     (0x8, "CKR_NO_EVENT"),
     (0xA, "CKR_CANT_LOCK"),
     (0x10, "CKR_ATTRIBUTE_READ_ONLY"),
     (0x11, "CKR_ATTRIBUTE_SENSITIVE"),
     (0x12, "CKR_ATTRIBUTE_TYPE_INVALID"),
     (0x13, "CKR_ATTRIBUTE_VALUE_INVALID"),
     (0x1B, "CKR_ACTION_PROHIBITED"),
     (0x20, "CKR_DATA_INVALID"),
     (0x21, "CKR_DATA_LEN_RANGE"),
     (0x30, "CKR_DEVICE_ERROR"),
     (0x31, "CKR_DEVICE_MEMORY"),
     (0x32, "CKR_DEVICE_REMOVED"),
     (0x40, "CKR_ENCRYPTED_DATA_INVALID"),
     (0x41, "CKR_ENCRYPTED_DATA_LEN_RANGE"),
     (0x42, "CKR_AEAD_DECRYPT_FAILED"),
     (0x50, "CKR_FUNCTION_CANCELED"),
     (0x51, "CKR_FUNCTION_NOT_PARALLEL"),
     (0x54, "CKR_FUNCTION_NOT_SUPPORTED"),
     (0x60, "CKR_KEY_HANDLE_INVALID"),
     (0x62, "CKR_KEY_SIZE_RANGE"),
     (0x63, "CKR_KEY_TYPE_INCONSISTENT"),
     (0x64, "CKR_KEY_NOT_NEEDED"),
     (0x65, "CKR_KEY_CHANGED"),
     (0x66, "CKR_KEY_NEEDED"),
     (0x67, "CKR_KEY_INDIGESTIBLE"),
     (0x68, "CKR_KEY_FUNCTION_NOT_PERMITTED"),
     (0x69, "CKR_KEY_NOT_WRAPPABLE"),
     (0x6A, "CKR_KEY_UNEXTRACTABLE"),
     (0x70, "CKR_MECHANISM_INVALID"),
     (0x71, "CKR_MECHANISM_PARAM_INVALID"),
     (0x82, "CKR_OBJECT_HANDLE_INVALID"),
     (0x90, "CKR_OPERATION_ACTIVE"),
     (0x91, "CKR_OPERATION_NOT_INITIALIZED"),
     (0xA0, "CKR_PIN_INCORRECT"),
     (0xA1, "CKR_PIN_INVALID"),
     (0xA2, "CKR_PIN_LEN_RANGE"),
     (0xA3, "CKR_PIN_EXPIRED"),
     (0xA4, "CKR_PIN_LOCKED"),
     (0xB0, "CKR_SESSION_CLOSED"),
     (0xB1, "CKR_SESSION_COUNT"),
     (0xB3, "CKR_SESSION_HANDLE_INVALID"),
     (0xB4, "CKR_SESSION_PARALLEL_NOT_SUPPORTED"),
     (0xB5, "CKR_SESSION_READ_ONLY"),
     (0xB6, "CKR_SESSION_EXISTS"),
     (0xB7, "CKR_SESSION_READ_ONLY_EXISTS"),
     (0xB8, "CKR_SESSION_READ_WRITE_SO_EXISTS"),
     (0xC0, "CKR_SIGNATURE_INVALID"),
     (0xC1, "CKR_SIGNATURE_LEN_RANGE"),
     (0xD0, "CKR_TEMPLATE_INCOMPLETE"),
     (0xD1, "CKR_TEMPLATE_INCONSISTENT"),
     (0xE0, "CKR_TOKEN_NOT_PRESENT"),
     (0xE1, "CKR_TOKEN_NOT_RECOGNIZED"),
     (0xE2, "CKR_TOKEN_WRITE_PROTECTED"),
     (0xF0, "CKR_UNWRAPPING_KEY_HANDLE_INVALID"),
     (0x100, "CKR_USER_ALREADY_LOGGED_IN"),
     (0x101, "CKR_USER_NOT_LOGGED_IN"),
     (0x102, "CKR_USER_PIN_NOT_INITIALIZED"),
     (0x103, "CKR_USER_TYPE_INVALID"),
     (0x110, "CKR_WRAPPED_KEY_INVALID"),
     (0x113, "CKR_WRAPPING_KEY_HANDLE_INVALID"),
     (0x120, "CKR_RANDOM_SEED_NOT_SUPPORTED"),
     (0x121, "CKR_RANDOM_NO_RNG"),
     (0x150, "CKR_BUFFER_TOO_SMALL"),
     (0x190, "CKR_CRYPTOKI_NOT_INITIALIZED"),
     (0x191, "CKR_CRYPTOKI_ALREADY_INITIALIZED"),
     (0x200, "CKR_FUNCTION_REJECTED"),
     (0x202, "CKR_OPERATION_CANCEL_FAILED")]

/-- The name of a return value. -/
def name (rv : Code) : String := naming.name rv

end TokenClient.Rv
