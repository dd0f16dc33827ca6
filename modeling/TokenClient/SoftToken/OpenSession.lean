import TokenClient.Error
import TokenClient.Module.Step
import TokenClient.SoftToken.Cipher

/-!
# A session as the token knows it

For each kind of operation the token keeps a context while the operation runs: a cipher, the bytes fed
to a digest, a signature or a verification, the message at hand, the handles that a search has yet to
give. All message operations share one context. A step looks for its context, works on it and answers;
without the context it is not initialized.
-/

namespace TokenClient.SoftToken

/-- The context of the message operations: the key byte, and what has come of the message. -/
structure MessageContext where
  key : UInt8
  parts : Bytes
deriving DecidableEq, Repr

/-- An open session. -/
structure OpenSession where
  isRw : Bool
  encrypt : Option Cipher
  decrypt : Option Cipher
  /-- What a digest has been fed. -/
  digest : Option Bytes
  /-- The key byte and what a signature has been fed. -/
  sign : Option Bytes
  /-- The key byte and what a verification has been fed. -/
  verify : Option Bytes
  message : Option MessageContext
  /-- The handles that a search has yet to give. -/
  find : Option (List Code)
deriving DecidableEq, Repr

/-- The answer to a step without its context. -/
def notInitialized : Error := .token Rv.operationNotInitialized

/-- Whether a signature is the expected one. -/
def judge (expected signature : Bytes) : Except Error Unit :=
  if expected = signature then .ok () else .error (.token Rv.signatureInvalid)

namespace OpenSession

/-- A session on which nothing runs. -/
def fresh (isRw : Bool) : OpenSession := ⟨isRw, none, none, none, none, none, none, none⟩

/-- A session on which an operation has started, with the first byte of its key. A digest has no key. -/
def start (session : OpenSession) (key : UInt8) : Operation → OpenSession
  | .encrypt => { session with encrypt := some (.start key) }
  | .decrypt => { session with decrypt := some (.start key) }
  | .digest => { session with digest := some [] }
  | .sign => { session with sign := some [key] }
  | .verify => { session with verify := some [key] }
  | .messageEncrypt | .messageDecrypt | .messageSign | .messageVerify =>
    { session with message := some ⟨key, []⟩ }
  | .signRecover | .verifyRecover | .find => session

/-- A session without the contexts that flags name. -/
def cancel (session : OpenSession) (flags : Code) : OpenSession where
  isRw := session.isRw
  encrypt := if flags.meets Flag.encrypt then none else session.encrypt
  decrypt := if flags.meets Flag.decrypt then none else session.decrypt
  digest := if flags.meets Flag.digest then none else session.digest
  sign := if flags.meets Flag.sign then none else session.sign
  verify := if flags.meets Flag.verify then none else session.verify
  message := if flags.meets (Flag.messageEncrypt ||| Flag.messageDecrypt ||| Flag.messageSign |||
    Flag.messageVerify) then none else session.message
  find := if flags.meets Flag.findObjects then none else session.find

/-- A digest is fed. -/
def feedDigest (session : OpenSession) (data : Bytes) : Except Error Unit × OpenSession :=
  match session.digest with
  | some fed => (.ok (), { session with digest := some (fed ++ data) })
  | none => (.error notInitialized, session)

/-- The message operation ends. -/
def endMessages (session : OpenSession) : Except Error Unit × OpenSession :=
  match session.message with
  | some _ => (.ok (), { session with message := none })
  | none => (.error notInitialized, session)

/-- Takes a step. The value of a key that goes into a digest is not known here, so `Step.digestKey` finds
it in `keyValue`. -/
def step (session : OpenSession) (keyValue : Bytes) :
    (step : Step) → Except Error step.Result × OpenSession
  | .encrypt data =>
    match session.encrypt with
    | some cipher => (.ok (mask cipher.key data), { session with encrypt := none })
    | none => (.error notInitialized, session)
  | .encryptUpdate data =>
    match session.encrypt with
    | some cipher => (.ok (cipher.released data), { session with encrypt := some (cipher.feed data) })
    | none => (.error notInitialized, session)
  | .encryptFinal =>
    match session.encrypt with
    | some cipher => (.ok cipher.rest, { session with encrypt := none })
    | none => (.error notInitialized, session)
  | .decrypt data =>
    match session.decrypt with
    | some cipher => (.ok (mask cipher.key data), { session with decrypt := none })
    | none => (.error notInitialized, session)
  | .decryptUpdate data =>
    match session.decrypt with
    | some cipher => (.ok (cipher.released data), { session with decrypt := some (cipher.feed data) })
    | none => (.error notInitialized, session)
  | .decryptFinal =>
    match session.decrypt with
    | some cipher => (.ok cipher.rest, { session with decrypt := none })
    | none => (.error notInitialized, session)
  | .digest data =>
    match session.digest with
    | some _ => (.ok (hash data), { session with digest := none })
    | none => (.error notInitialized, session)
  | .digestUpdate data => session.feedDigest data
  | .digestKey _ => session.feedDigest keyValue
  | .digestFinal =>
    match session.digest with
    | some fed => (.ok (hash fed), { session with digest := none })
    | none => (.error notInitialized, session)
  | .sign data =>
    match session.sign with
    | some fed => (.ok (hash (fed ++ data)), { session with sign := none })
    | none => (.error notInitialized, session)
  | .signUpdate data =>
    match session.sign with
    | some fed => (.ok (), { session with sign := some (fed ++ data) })
    | none => (.error notInitialized, session)
  | .signFinal =>
    match session.sign with
    | some fed => (.ok (hash fed), { session with sign := none })
    | none => (.error notInitialized, session)
  | .verify data signature =>
    match session.verify with
    | some fed => (judge (hash (fed ++ data)) signature, { session with verify := none })
    | none => (.error notInitialized, session)
  | .verifyUpdate data =>
    match session.verify with
    | some fed => (.ok (), { session with verify := some (fed ++ data) })
    | none => (.error notInitialized, session)
  | .verifyFinal signature =>
    match session.verify with
    | some fed => (judge (hash fed) signature, { session with verify := none })
    | none => (.error notInitialized, session)
  | .digestEncryptUpdate data =>
    match session.digest, session.encrypt with
    | some fed, some cipher =>
      (.ok (cipher.released data),
        { session with digest := some (fed ++ data), encrypt := some (cipher.feed data) })
    | _, _ => (.error notInitialized, session)
  | .decryptDigestUpdate data =>
    match session.decrypt, session.digest with
    | some cipher, some fed =>
      (.ok (cipher.released data),
        { session with
          decrypt := some (cipher.feed data), digest := some (fed ++ cipher.released data) })
    | _, _ => (.error notInitialized, session)
  | .signEncryptUpdate data =>
    match session.sign, session.encrypt with
    | some fed, some cipher =>
      (.ok (cipher.released data),
        { session with sign := some (fed ++ data), encrypt := some (cipher.feed data) })
    | _, _ => (.error notInitialized, session)
  | .decryptVerifyUpdate data =>
    match session.decrypt, session.verify with
    | some cipher, some fed =>
      (.ok (cipher.released data),
        { session with
          decrypt := some (cipher.feed data), verify := some (fed ++ cipher.released data) })
    | _, _ => (.error notInitialized, session)
  | .messageEncryptFinal | .messageDecryptFinal => session.endMessages
  | .messageSignFinal | .messageVerifyFinal => session.endMessages
  | .signRecover _ | .verifyRecover _ => (.error (.token Rv.functionNotSupported), session)

end OpenSession

/-- The tag of a message: the hash of what accompanies it and its ciphertext, as long as the tag in the
parameters is. -/
def tagOf (params : MessageParams) (aad ciphertext : Bytes) : Bytes :=
  Bytes.fit params.tag.length (hash (aad ++ ciphertext))

/-- Whether the parameters carry the tag of a message. -/
def checkTag (params : MessageParams) (aad ciphertext : Bytes) : Except Error Unit :=
  if params.tag = tagOf params aad ciphertext then .ok () else .error (.token Rv.aeadDecryptFailed)

namespace OpenSession

/-- The session with other parts of a message at hand. -/
def withParts (session : OpenSession) (context : MessageContext) (parts : Bytes) : OpenSession :=
  { session with message := some { context with parts := parts } }

/-- Takes a step of a message operation. A part of an encryption counts towards the tag as ciphertext;
what accompanies the message goes first, so it is not needed again at the end. -/
def messageStep (session : OpenSession) :
    (step : MessageStep) → (Except Error step.Result × step.Written) × OpenSession
  | .encrypt params aad plaintext =>
    match session.message with
    | some context =>
      let ciphertext := mask context.key plaintext
      ((.ok ciphertext, params.withTag (tagOf params aad ciphertext)), session)
    | none => ((.error notInitialized, params), session)
  | .encryptBegin params aad =>
    match session.message with
    | some context => ((.ok (), params), session.withParts context aad)
    | none => ((.error notInitialized, params), session)
  | .encryptNext params part last =>
    match session.message with
    | some context =>
      let ciphertext := mask context.key part
      let parts := context.parts ++ ciphertext
      ((.ok ciphertext, if last then params.withTag (tagOf params [] parts) else params),
        session.withParts context parts)
    | none => ((.error notInitialized, params), session)
  | .decrypt params aad ciphertext =>
    match session.message with
    | some context =>
      (((checkTag params aad ciphertext).map fun () => mask context.key ciphertext, params), session)
    | none => ((.error notInitialized, params), session)
  | .decryptBegin params aad =>
    match session.message with
    | some context => ((.ok (), params), session.withParts context aad)
    | none => ((.error notInitialized, params), session)
  | .decryptNext params part last =>
    match session.message with
    | some context =>
      let parts := context.parts ++ part
      (((if last then checkTag params [] parts else .ok ()).map fun () => mask context.key part, params),
        session.withParts context parts)
    | none => ((.error notInitialized, params), session)
  | .sign _ data =>
    match session.message with
    | some context => ((.ok (keyedHash context.key data), ()), session)
    | none => ((.error notInitialized, ()), session)
  | .signBegin _ =>
    match session.message with
    | some context => ((.ok (), ()), session.withParts context [])
    | none => ((.error notInitialized, ()), session)
  | .signNext _ part last =>
    match session.message with
    | some context =>
      let parts := context.parts ++ part
      if last then ((.ok (keyedHash context.key parts), ()), session.withParts context [])
      else ((.ok [], ()), session.withParts context parts)
    | none => ((.error notInitialized, ()), session)
  | .verify _ data signature =>
    match session.message with
    | some context => ((judge (keyedHash context.key data) signature, ()), session)
    | none => ((.error notInitialized, ()), session)
  | .verifyBegin _ =>
    match session.message with
    | some context => ((.ok (), ()), session.withParts context [])
    | none => ((.error notInitialized, ()), session)
  | .verifyNext _ part signature =>
    match session.message with
    | some context =>
      let parts := context.parts ++ part
      match signature with
      | none => ((.ok (), ()), session.withParts context parts)
      | some signature =>
        ((judge (keyedHash context.key parts) signature, ()), session.withParts context [])
    | none => ((.error notInitialized, ()), session)

end OpenSession

end TokenClient.SoftToken
