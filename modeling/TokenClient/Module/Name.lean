import TokenClient.Module.Call

/-!
# Names of calls

The names under which the standard knows the calls.
-/

namespace TokenClient

/-- The standard name of a start. -/
def Start.name : Start → String
  | encrypt _ => "C_EncryptInit"
  | decrypt _ => "C_DecryptInit"
  | digest => "C_DigestInit"
  | sign _ => "C_SignInit"
  | signRecover _ => "C_SignRecoverInit"
  | verify _ => "C_VerifyInit"
  | verifyRecover _ => "C_VerifyRecoverInit"
  | messageEncrypt _ => "C_MessageEncryptInit"
  | messageDecrypt _ => "C_MessageDecryptInit"
  | messageSign _ => "C_MessageSignInit"
  | messageVerify _ => "C_MessageVerifyInit"

/-- The standard name of a step. -/
def Step.name : Step → String
  | encrypt _ => "C_Encrypt"
  | encryptUpdate _ => "C_EncryptUpdate"
  | encryptFinal => "C_EncryptFinal"
  | decrypt _ => "C_Decrypt"
  | decryptUpdate _ => "C_DecryptUpdate"
  | decryptFinal => "C_DecryptFinal"
  | digest _ => "C_Digest"
  | digestUpdate _ => "C_DigestUpdate"
  | digestKey _ => "C_DigestKey"
  | digestFinal => "C_DigestFinal"
  | sign _ => "C_Sign"
  | signUpdate _ => "C_SignUpdate"
  | signFinal => "C_SignFinal"
  | signRecover _ => "C_SignRecover"
  | verify _ _ => "C_Verify"
  | verifyUpdate _ => "C_VerifyUpdate"
  | verifyFinal _ => "C_VerifyFinal"
  | verifyRecover _ => "C_VerifyRecover"
  | digestEncryptUpdate _ => "C_DigestEncryptUpdate"
  | decryptDigestUpdate _ => "C_DecryptDigestUpdate"
  | signEncryptUpdate _ => "C_SignEncryptUpdate"
  | decryptVerifyUpdate _ => "C_DecryptVerifyUpdate"
  | messageEncryptFinal => "C_MessageEncryptFinal"
  | messageDecryptFinal => "C_MessageDecryptFinal"
  | messageSignFinal => "C_MessageSignFinal"
  | messageVerifyFinal => "C_MessageVerifyFinal"

/-- The standard name of a message step. -/
def MessageStep.name : MessageStep → String
  | encrypt _ _ _ => "C_EncryptMessage"
  | encryptBegin _ _ => "C_EncryptMessageBegin"
  | encryptNext _ _ _ => "C_EncryptMessageNext"
  | decrypt _ _ _ => "C_DecryptMessage"
  | decryptBegin _ _ => "C_DecryptMessageBegin"
  | decryptNext _ _ _ => "C_DecryptMessageNext"
  | sign _ _ => "C_SignMessage"
  | signBegin _ => "C_SignMessageBegin"
  | signNext _ _ _ => "C_SignMessageNext"
  | verify _ _ _ => "C_VerifyMessage"
  | verifyBegin _ => "C_VerifyMessageBegin"
  | verifyNext _ _ _ => "C_VerifyMessageNext"

/-- The standard name of a command. -/
def Command.name : Command → String
  | closeSession => "C_CloseSession"
  | getSessionInfo => "C_GetSessionInfo"
  | sessionCancel _ => "C_SessionCancel"
  | getOperationState => "C_GetOperationState"
  | setOperationState _ _ _ => "C_SetOperationState"
  | login _ _ => "C_Login"
  | loginUser _ _ _ => "C_LoginUser"
  | logout => "C_Logout"
  | initPin _ => "C_InitPIN"
  | setPin _ _ => "C_SetPIN"
  | createObject _ => "C_CreateObject"
  | copyObject _ _ => "C_CopyObject"
  | destroyObject _ => "C_DestroyObject"
  | getObjectSize _ => "C_GetObjectSize"
  | getAttributeValue _ _ => "C_GetAttributeValue"
  | setAttributeValue _ _ => "C_SetAttributeValue"
  | findObjectsInit _ => "C_FindObjectsInit"
  | findObjects _ => "C_FindObjects"
  | findObjectsFinal => "C_FindObjectsFinal"
  | start s _ => s.name
  | step s => s.name
  | message s => s.name
  | generateKey _ _ => "C_GenerateKey"
  | generateKeyPair _ _ _ => "C_GenerateKeyPair"
  | wrapKey _ _ _ => "C_WrapKey"
  | unwrapKey _ _ _ _ => "C_UnwrapKey"
  | deriveKey _ _ _ => "C_DeriveKey"
  | seedRandom _ => "C_SeedRandom"
  | generateRandom _ => "C_GenerateRandom"
  | getFunctionStatus => "C_GetFunctionStatus"
  | cancelFunction => "C_CancelFunction"

/-- The standard name of a call. -/
def Call.name : Call → String
  | getInfo => "C_GetInfo"
  | getSlotList _ => "C_GetSlotList"
  | getSlotInfo _ => "C_GetSlotInfo"
  | getTokenInfo _ => "C_GetTokenInfo"
  | getMechanismList _ => "C_GetMechanismList"
  | getMechanismInfo _ _ => "C_GetMechanismInfo"
  | openSession _ _ => "C_OpenSession"
  | closeAllSessions _ => "C_CloseAllSessions"
  | inSession _ command => command.name

end TokenClient
