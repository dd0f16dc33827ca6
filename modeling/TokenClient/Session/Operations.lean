import TokenClient.Session.Basic

/-!
# Operations of a session

Starts, steps, message steps and their cancellation. Each first asks the tracker, then the module, and
tells the tracker what came of it. A refused call does not reach the module.

The module may say that a signature does not match along with more, in a message or a cause; a caller
gets the bare verdict, which it can recognise (`Error.verdict`).
-/

namespace TokenClient

/-- A failure of a verification as the caller gets it: the token's answer that a signature does not match
is stripped of what else was said. -/
def Error.verdict (error : Error) : Error :=
  if error.isRv Rv.signatureInvalid then .token Rv.signatureInvalid else error

namespace Session

/-- A result as the caller gets it, for calls that decide about a signature and for others. -/
def settle {α : Type} (verifies : Bool) (result : Except Error α) : Except Error α :=
  if verifies then result.mapError Error.verdict else result

/-- Starts an operation. -/
def start (session : Session) (start : Start) (mechanism : Mechanism) : Action Unit :=
  match session.openHandle with
  | .error e => session.refuse e
  | .ok handle =>
    match session.tracker.checkStart start.operation with
    | .error refusal => session.refuse refusal.error
    | .ok () =>
      (Program.request (.inSession handle (.start start (session.wireMechanism mechanism)))).map fun
        | .ok () => (.ok (), { session with tracker := session.tracker.start start.operation })
        | .error e => (.error e, session)

/-- The session after a step: its operations have ended if it was their last one or if it failed. -/
def afterStep (session : Session) (step : Step) (succeeded : Bool) : Session :=
  if step.isLast || !succeeded then
    { session with tracker := session.tracker.finish (.ofList step.operations) }
  else session

/-- Carries an operation on, or two at once. -/
def step (session : Session) (step : Step) : Action step.Result :=
  match session.openHandle with
  | .error e => session.refuse e
  | .ok handle =>
    match session.tracker.checkAll step.operations with
    | .error refusal => session.refuse refusal.error
    | .ok () =>
      (Program.request (.inSession handle (.step step))).map fun result =>
        (settle step.verifies result, session.afterStep step result.isOk)

/-- The session after a message step. -/
def afterMessage (session : Session) (step : MessageStep) (succeeded : Bool) : Session :=
  { session with tracker := session.tracker.afterMessage step.place succeeded }

/-- The handle for a message step, if the step may come now. -/
def admitMessage (session : Session) (step : MessageStep) : Except Error Code :=
  match session.openHandle with
  | .error e => .error e
  | .ok handle => ((session.tracker.checkMessage step.operation step.place).mapError Refusal.error).map
      fun () => handle

/-- Takes a step of a message operation. Apart from the result, the parameters come back as the module
left them. -/
def message (session : Session) (step : MessageStep) :
    Program ((Except Error step.Result × step.Written) × Session) :=
  match session.admitMessage step with
  | .error e => .done ((.error e, step.untouched), session.afterMessage step false)
  | .ok handle =>
    .ask (.inSession handle (.message step)) fun reply =>
      .done ((settle step.verifies reply.result, reply.written),
        session.afterMessage step reply.result.isOk)

/-- Cancels the operations that the flags name. They end if the module agrees; the others go on. -/
def cancel (session : Session) (flags : Code) : Action Unit :=
  (session.forward (.sessionCancel flags)).map fun
    | (.ok (), session) =>
      (.ok (), { session with tracker := session.tracker.finish (.ofCancelFlags flags) })
    | (.error e, session) => (.error e, session)

end Session

end TokenClient
