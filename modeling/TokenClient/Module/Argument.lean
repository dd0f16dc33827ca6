import TokenClient.Module.Call

/-!
# What calls carry

The arguments of each call, in the order in which the standard lists them. Together with its name they
make up the record of a call.
-/

namespace TokenClient

/-- An argument of a call. -/
inductive Argument where
  | code (code : Code)
  | flag (flag : Bool)
  | count (count : Nat)
  | bytes (bytes : Bytes)
  | optionalBytes (bytes : Option Bytes)
  | template (template : List WireAttribute)
  | mechanism (mechanism : Mechanism)
  | params (params : Option MechanismParams)
  | messageParams (params : MessageParams)

/-- What a step carries. -/
def Step.arguments : Step → List Argument
  | encrypt data | encryptUpdate data | decrypt data | decryptUpdate data => [.bytes data]
  | digest data | digestUpdate data | sign data | signUpdate data | signRecover data => [.bytes data]
  | verify data signature => [.bytes data, .bytes signature]
  | verifyUpdate data | verifyFinal data | verifyRecover data => [.bytes data]
  | digestEncryptUpdate data | decryptDigestUpdate data => [.bytes data]
  | signEncryptUpdate data | decryptVerifyUpdate data => [.bytes data]
  | digestKey key => [.code key]
  | encryptFinal | decryptFinal | digestFinal | signFinal => []
  | messageEncryptFinal | messageDecryptFinal | messageSignFinal | messageVerifyFinal => []

/-- What a message step carries. The last part of an encryption or decryption is marked by a flag, that
of a signature by asking for it, and that of a verification by the signature. -/
def MessageStep.arguments : MessageStep → List Argument
  | encrypt params aad data | decrypt params aad data => [.messageParams params, .bytes aad, .bytes data]
  | encryptBegin params aad | decryptBegin params aad => [.messageParams params, .bytes aad]
  | encryptNext params part last | decryptNext params part last =>
    [.messageParams params, .bytes part, .code (if last then Flag.endOfMessage else 0)]
  | sign params data => [.params params, .bytes data]
  | signBegin params | verifyBegin params => [.params params]
  | signNext params part last => [.params params, .bytes part, .flag last]
  | verify params data signature => [.params params, .bytes data, .bytes signature]
  | verifyNext params part signature => [.params params, .bytes part, .optionalBytes signature]

/-- What a command carries beside the handle of its session. -/
def Command.arguments : Command → List Argument
  | closeSession | getSessionInfo | getOperationState | logout | findObjectsFinal => []
  | getFunctionStatus | cancelFunction => []
  | sessionCancel flags => [.code flags]
  | setOperationState state encryptionKey authenticationKey =>
    [.bytes state, .code encryptionKey, .code authenticationKey]
  | login user pin => [.code user, .bytes pin]
  | loginUser user pin name => [.code user, .bytes pin, .bytes name]
  | initPin pin => [.bytes pin]
  | setPin oldPin newPin => [.bytes oldPin, .bytes newPin]
  | createObject template | findObjectsInit template => [.template template]
  | copyObject object template | setAttributeValue object template => [.code object, .template template]
  | destroyObject object | getObjectSize object => [.code object]
  | getAttributeValue object types => [.code object, .template (types.map WireAttribute.query)]
  | findObjects max => [.count max.toNat]
  | start s mechanism => .mechanism mechanism :: (s.key?.map Argument.code).toList
  | step s => s.arguments
  | message s => s.arguments
  | generateKey mechanism template => [.mechanism mechanism, .template template]
  | generateKeyPair mechanism publicTemplate privateTemplate =>
    [.mechanism mechanism, .template publicTemplate, .template privateTemplate]
  | wrapKey mechanism wrappingKey key => [.mechanism mechanism, .code wrappingKey, .code key]
  | unwrapKey mechanism unwrappingKey wrapped template =>
    [.mechanism mechanism, .code unwrappingKey, .bytes wrapped, .template template]
  | deriveKey mechanism baseKey template => [.mechanism mechanism, .code baseKey, .template template]
  | seedRandom seed => [.bytes seed]
  | generateRandom length => [.count length.toNat]

/-- What a call carries. -/
def Call.arguments : Call → List Argument
  | getInfo => []
  | getSlotList tokenPresent => [.flag tokenPresent]
  | getSlotInfo slot | getTokenInfo slot | getMechanismList slot | closeAllSessions slot => [.code slot]
  | getMechanismInfo slot mechanism => [.code slot, .code mechanism]
  | openSession slot flags => [.code slot, .code flags]
  | inSession session command => .code session :: command.arguments

end TokenClient
