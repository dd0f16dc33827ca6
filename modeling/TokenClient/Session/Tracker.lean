import TokenClient.Error
import TokenClient.Module.Step
import TokenClient.Session.FindCursor

/-!
# The tracker of active operations

A token keeps, for each session, which operations are running. The tracker is the client's own account of
that, so that calls that are certain to fail are refused before they reach the token: a start beside an
operation that does not tolerate it, and a step of an operation that does not run.

Searches and message operations run alone. Two other operations run together only as one of the four
`OperationSet.dualPairs`. A message operation takes one message after another; whether one has begun and
is not yet complete is tracked as well.
-/

namespace TokenClient

/-- Why the tracker refuses a call. -/
inductive Refusal where
  /-- The operation runs already. -/
  | alreadyActive (operation : Operation) (active : OperationSet)
  /-- The operation, or one that runs, has to run alone. -/
  | busy (operation : Operation) (active : OperationSet)
  /-- The operation and those that run do not make up a dual pair. -/
  | notDualPair (operation : Operation) (active : OperationSet)
  /-- The operation does not run. -/
  | notInitialized (operation : Operation)
  /-- A part comes before its message has begun. -/
  | noMessage (operation : Operation)
  /-- A message is not yet complete. -/
  | messageInProgress (operation : Operation)
  /-- A search has to start while nothing runs. -/
  | searchBlocked (active : OperationSet)
deriving DecidableEq, Repr

namespace Refusal

/-- What a refused call would have been answered by the token. -/
def rv : Refusal → Code
  | alreadyActive _ _ | busy _ _ | notDualPair _ _ => Rv.operationActive
  | messageInProgress _ | searchBlocked _ => Rv.operationActive
  | notInitialized _ | noMessage _ => Rv.operationNotInitialized

/-- The text of a refusal. -/
def message : Refusal → String
  | alreadyActive op active => text op ++ ": already active with " ++ active.display
  | busy op active => text op ++ ": session busy with " ++ active.display
  | notDualPair op active => text op ++ ": not a dual-function pair with " ++ active.display
  | notInitialized op => text op ++ " not initialized"
  | noMessage op => text op ++ ": no message in progress"
  | messageInProgress op => text op ++ ": a message is in progress"
  | searchBlocked active => "find with " ++ active.display ++ " active"
where
  /-- The text of an operation. -/
  text (op : Operation) : String := (OperationSet.single op).display

/-- The error of a refused call. -/
def error (refusal : Refusal) : Error := .operationState refusal.rv refusal.message

end Refusal

/-- Which operations run on a session, and how far they are. -/
structure Tracker where
  active : OperationSet
  /-- Whether a message has begun and is not yet complete. -/
  messageBegun : Bool
  /-- The cursor of the search, if one runs. -/
  cursor : Option FindCursor
deriving DecidableEq, Repr

namespace Tracker

/-- Nothing runs. -/
def idle : Tracker := ⟨.empty, false, none⟩

/-- Whether an operation may start. -/
def checkStart (tracker : Tracker) (op : Operation) : Except Refusal Unit :=
  if tracker.active.isEmpty then .ok ()
  else if tracker.active.contains op then .error (.alreadyActive op tracker.active)
  else if tracker.active.any Operation.isExclusive || op.isExclusive then
    .error (.busy op tracker.active)
  else if OperationSet.dualPairs.contains (tracker.active.insert op) then .ok ()
  else .error (.notDualPair op tracker.active)

/-- Whether a search may start. -/
def checkSearch (tracker : Tracker) : Except Refusal Unit :=
  if tracker.active.isEmpty then .ok () else .error (.searchBlocked tracker.active)

/-- Whether an operation runs. -/
def checkActive (tracker : Tracker) (op : Operation) : Except Refusal Unit :=
  if tracker.active.contains op then .ok () else .error (.notInitialized op)

/-- Whether all of the operations run; the first that does not is named. -/
def checkAll (tracker : Tracker) : List Operation → Except Refusal Unit
  | [] => .ok ()
  | op :: ops =>
    match tracker.checkActive op with
    | .ok () => tracker.checkAll ops
    | .error refusal => .error refusal

/-- Whether a message step may come now: a part within a message, any other between messages. -/
def checkMessage (tracker : Tracker) (op : Operation) (place : MessageStep.Place) :
    Except Refusal Unit :=
  match tracker.checkActive op with
  | .error refusal => .error refusal
  | .ok () =>
    match place, tracker.messageBegun with
    | .part _, false => .error (.noMessage op)
    | .whole, true | .begin, true => .error (.messageInProgress op)
    | .part _, true | .whole, false | .begin, false => .ok ()

/-- The tracker after an operation has started. -/
def start (tracker : Tracker) (op : Operation) : Tracker where
  active := tracker.active.insert op
  messageBegun := tracker.messageBegun
  cursor := if op = .find then some .start else tracker.cursor

/-- The tracker after operations have ended. With a message operation the message ends, and with a search
its cursor. -/
def finish (tracker : Tracker) (ops : OperationSet) : Tracker where
  active := tracker.active.diff ops
  messageBegun := tracker.messageBegun && !ops.any Operation.isMessage
  cursor := if ops.contains .find then none else tracker.cursor

/-- The tracker after a message step, refused ones included. A message begins if its beginning succeeds;
it is over with its last part, and with any part that fails. -/
def afterMessage (tracker : Tracker) (place : MessageStep.Place) (succeeded : Bool) : Tracker :=
  match place with
  | .whole => tracker
  | .begin => { tracker with messageBegun := tracker.messageBegun || succeeded }
  | .part last => { tracker with messageBegun := tracker.messageBegun && !last && succeeded }

/-- An operation passes the check just if it is active. -/
theorem checkActive_eq_ok_iff (tracker : Tracker) (op : Operation) :
    tracker.checkActive op = .ok () ↔ tracker.active.contains op = true := by
  unfold checkActive
  split
  next h => simp [h]
  next h => simp [h]

/-- Several operations pass the check just if all of them are active. -/
theorem checkAll_eq_ok_iff (tracker : Tracker) (ops : List Operation) :
    tracker.checkAll ops = .ok () ↔ ∀ op ∈ ops, tracker.active.contains op = true := by
  induction ops with
  | nil => simp [checkAll]
  | cons op ops ih =>
    by_cases h : tracker.active.contains op = true
    · simp [checkAll, checkActive, h, ih]
    · simp [checkAll, checkActive, h]

/-- An operation that starts is active besides those before. -/
@[simp]
theorem active_start (tracker : Tracker) (op : Operation) :
    (tracker.start op).active = tracker.active.insert op := rfl

/-- The operations that finish are not active any more, and the others are as before. -/
@[simp]
theorem active_finish (tracker : Tracker) (ops : OperationSet) :
    (tracker.finish ops).active = tracker.active.diff ops := rfl

/-- A message step neither starts nor ends an operation. -/
@[simp]
theorem active_afterMessage (tracker : Tracker) (place : MessageStep.Place) (succeeded : Bool) :
    (tracker.afterMessage place succeeded).active = tracker.active := by
  cases place <;> rfl

/-- A step of a message leaves the cursor alone. -/
@[simp]
theorem cursor_afterMessage (tracker : Tracker) (place : MessageStep.Place) (succeeded : Bool) :
    (tracker.afterMessage place succeeded).cursor = tracker.cursor := by
  cases place <;> rfl

end Tracker

end TokenClient
