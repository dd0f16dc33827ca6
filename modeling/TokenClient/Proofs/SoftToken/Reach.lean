import TokenClient.SoftToken.Answer

/-!
# The states of the token in memory

A token is reachable if it comes about from a new one by calls of any kind, by objects that are put in past
all sessions, and by its switches (`SoftToken.Reachable`). In all these states the objects are in the order
of their handles (`SoftToken.Reachable.sorted`): most calls leave the objects alone, the others enter,
replace or erase some, and a registry stays in order under all of these.
-/

namespace TokenClient.SoftToken

open Registry

variable {token : SoftToken} {handle : Code}

/-- The tokens that come about from a new one. -/
inductive Reachable : SoftToken → Prop
  | new : Reachable .new
  | answer {token : SoftToken} (reachable : Reachable token) (call : Call) :
      Reachable (token.answer call).2
  | insert {token : SoftToken} (reachable : Reachable token) (template : List WireAttribute) :
      Reachable (token.enterObject template).2
  | switch {token : SoftToken} (reachable : Reachable token) (strictBatch : Bool)
      (failing : List (Code × Code)) (repeatFind stuckFind : Bool) (findError : Option Code) :
      Reachable { token with
        strictBatch := strictBatch, failing := failing, repeatFind := repeatFind, stuckFind := stuckFind,
        findError := findError }

/-! ## What calls do to the objects -/

/-- An update of a session record touches no object. -/
private theorem objects_update {α : Type} (token : SoftToken) (handle : Code)
    (f : OpenSession → Except Error α × OpenSession) :
    (token.update handle f).2.objects = token.objects := by
  unfold update
  split <;> rfl

private theorem objects_login (token : SoftToken) (handle user : Code) (pin : Bytes) :
    (token.login handle user pin).2.objects = token.objects := by
  unfold login
  repeat' split
  all_goals rfl

private theorem objects_logout (token : SoftToken) (handle : Code) :
    (token.logout handle).2.objects = token.objects := by
  unfold logout
  repeat' split
  all_goals rfl

private theorem objects_find (token : SoftToken) (handle : Code) (max : UInt64) :
    (token.find handle max).2.objects = token.objects :=
  objects_update { token with findError := none } handle _

private theorem objects_start (token : SoftToken) (handle : Code) (start : Start) (mechanism : Mechanism) :
    (token.start handle start mechanism).2.objects = token.objects := by
  unfold SoftToken.start
  dsimp only
  split
  next => rfl
  next => exact objects_update ..

private theorem objects_step (token : SoftToken) (handle : Code) (step : Step) :
    (token.step handle step).2.objects = token.objects := by
  unfold SoftToken.step
  split
  next => rfl
  next => exact objects_update ..

private theorem objects_message (token : SoftToken) (handle : Code) (step : MessageStep) :
    (token.message handle step).2.objects = token.objects := by
  unfold SoftToken.message
  split <;> rfl

private theorem sorted_createObject (sorted : token.objects.Sorted) (template : List WireAttribute) :
    (token.createObject handle template).2.objects.Sorted := by
  unfold createObject
  split
  next => exact sorted
  next =>
    split
    next => exact sorted.enter ..
    next => exact sorted

private theorem sorted_copyObject (sorted : token.objects.Sorted) (source : Code)
    (template : List WireAttribute) : (token.copyObject handle source template).2.objects.Sorted := by
  unfold copyObject
  split
  next => exact sorted
  next => exact sorted.enter ..

private theorem sorted_destroyObject (sorted : token.objects.Sorted) (object : Code) :
    (token.destroyObject handle object).2.objects.Sorted := by
  unfold destroyObject
  split
  next => exact sorted
  next => exact sorted.erase ..

private theorem sorted_setAttributes (sorted : token.objects.Sorted) (object : Code)
    (template : List WireAttribute) :
    (token.setAttributes handle object template).2.objects.Sorted := by
  unfold setAttributes
  split
  next => exact sorted
  next => exact sorted.replace ..

private theorem sorted_generateKey (sorted : token.objects.Sorted) (mechanism : Mechanism)
    (template : List WireAttribute) :
    (token.generateKey handle mechanism template).2.objects.Sorted := by
  unfold generateKey
  dsimp only
  split
  next => exact sorted
  next => exact sorted.enter ..

private theorem sorted_generateKeyPair (sorted : token.objects.Sorted) (mechanism : Mechanism)
    (publicTemplate privateTemplate : List WireAttribute) :
    (token.generateKeyPair handle mechanism publicTemplate privateTemplate).2.objects.Sorted := by
  unfold generateKeyPair
  dsimp only
  split
  next => exact sorted
  next => exact (sorted.enter ..).enter ..

/-- A command leaves the objects in order. -/
theorem sorted_command (sorted : token.objects.Sorted) (handle : Code) (command : Command) :
    (token.command handle command).2.objects.Sorted := by
  cases command with
  | createObject template => exact sorted_createObject sorted template
  | copyObject object template => exact sorted_copyObject sorted object template
  | destroyObject object => exact sorted_destroyObject sorted object
  | setAttributeValue object template => exact sorted_setAttributes sorted object template
  | generateKey mechanism template => exact sorted_generateKey sorted mechanism template
  | generateKeyPair mechanism publicTemplate privateTemplate =>
    exact sorted_generateKeyPair sorted mechanism publicTemplate privateTemplate
  | login user pin => exact (objects_login token handle user pin).symm ▸ sorted
  | logout => exact (objects_logout token handle).symm ▸ sorted
  | findObjects max => exact (objects_find token handle max).symm ▸ sorted
  | start start mechanism => exact (objects_start token handle start mechanism).symm ▸ sorted
  | step step => exact (objects_step token handle step).symm ▸ sorted
  | message step => exact (objects_message token handle step).symm ▸ sorted
  | sessionCancel _ | setOperationState _ _ _ | findObjectsInit _ | findObjectsFinal =>
    exact (objects_update token handle _).symm ▸ sorted
  | _ => exact sorted

/-- Opening a session creates no object. -/
theorem objects_openSession (token : SoftToken) (slot flags : Code) :
    (token.openSession slot flags).2.objects = token.objects := by
  unfold openSession
  split
  next => rfl
  next => split <;> rfl

/-- A reachable token keeps its objects in the order of their handles. -/
theorem Reachable.sorted (reachable : token.Reachable) : token.objects.Sorted := by
  induction reachable with
  | new => exact sorted_nil
  | insert _ template ih => exact ih.enter ..
  | switch _ _ _ _ _ _ ih => exact ih
  | @answer token _ call ih =>
    cases call with
    | inSession handle command =>
      dsimp only [SoftToken.answer]
      split
      next => exact @sorted_command (token.count _) ih handle command
      next => exact ih
    | openSession slot flags => exact (objects_openSession (token.count _) slot flags).symm ▸ ih
    | _ => exact ih

end TokenClient.SoftToken
