import Mathlib.Logic.Function.Basic
import TokenClient.Session.Request

/-!
# An abstract store of objects

What an application may think of the objects of a token: under a handle there is an object, and an object is
a map from types to values. Nothing is said of wire forms, of code maps, or of how many calls a read takes.

- Making an object stores a template, and copying one stores its values with those of a template in their
  place. Either goes under a handle that was never given out before (`Store.Fresh`).
- Whether an object hides its value is settled when it is made, from the values it is then made of. Writing
  the mark later has no effect on that.
- A read of a type tells its value, that the object has none, or that it is hidden (`Store.Object.read`). A
  read of several types tells all of them, and where there is no object it fails, unless it asks for nothing
  (`Store.readAll`).
-/

namespace TokenClient

/-- The value of a type in a template. -/
def Template.value? (t : Template) (type : Code) : Option Value := (t.get? type).bind (·.reading.value?)

/-- An object as a map from types to values. -/
structure Store.Object where
  values : Code → Option Value
  /-- Whether its value is not revealed. -/
  hidden : Bool

/-- Objects under handles. -/
structure Store where
  objects : Code → Option Store.Object
  /-- The handles that were ever given out. -/
  given : List Code

/-- A request and its result. -/
structure Store.Event where
  request : Request
  result : Except Error request.Result

namespace Store

namespace Object

/-- Values with those of a template in their place. -/
def overlay (values : Code → Option Value) (t : Template) (type : Code) : Option Value :=
  (t.value? type).or (values type)

/-- The object made of values. -/
def make (values : Code → Option Value) : Object where
  values := values
  hidden :=
    match values AttributeType.sensitive with
    | some (.bool mark) => mark
    | _ => false

/-- What is read of a type. -/
def read (object : Object) (type : Code) : Attribute :=
  if object.hidden = true ∧ type = AttributeType.value then Attribute.sensitive type
  else
    match object.values type with
    | some value => ⟨type, value.kind, .held value⟩
    | none => Attribute.absent type

@[simp]
private theorem type_read (object : Object) (type : Code) : (object.read type).type = type := by
  unfold read
  repeat' split
  all_goals rfl

/-- Of several types that are read, each is found again. -/
theorem get?_map_read {object : Object} {types : List Code} {type : Code} (h : type ∈ types) :
    (Template.mk (types.map object.read)).get? type = some (object.read type) := by
  have hsome : ((Template.mk (types.map object.read)).get? type).isSome := by
    rw [Template.get?, List.find?_isSome]
    exact ⟨object.read type, List.mem_map_of_mem h, by simp⟩
  obtain ⟨a, ha⟩ := Option.isSome_iff_exists.1 hsome
  obtain ⟨other, -, rfl⟩ := List.mem_map.1 (List.mem_of_find?_eq_some ha)
  obtain rfl : other = type := by simpa using List.find?_some ha
  exact ha

end Object

/-- The store without objects. -/
def empty : Store := ⟨fun _ => none, []⟩

/-- The store with a new object. -/
def enter (store : Store) (handle : Code) (object : Object) : Store :=
  ⟨Function.update store.objects handle (some object), handle :: store.given⟩

/-- The store with another object under a handle, or with none. -/
def replace (store : Store) (handle : Code) (object : Option Object) : Store :=
  { store with objects := Function.update store.objects handle object }

/-- A handle was never given out, and nothing is under it. -/
def Fresh (store : Store) (handle : Code) : Prop :=
  handle ∉ store.given ∧ store.objects handle = none

/-- What is read of a type of an object. -/
def read (store : Store) (object type : Code) : Except Error Attribute :=
  match store.objects object with
  | some stored => .ok (stored.read type)
  | none => .error (.token Rv.objectHandleInvalid)

/-- What is read of several types of an object: an attribute for each type, in the order in which the types
first come. A read of no types finds nothing missing. -/
def readAll (store : Store) (object : Code) (types : List Code) : Except Error Template :=
  match store.objects object with
  | some stored => .ok ⟨types.eraseDups.map stored.read⟩
  | none => if types = [] then .ok .empty else .error (.token Rv.objectHandleInvalid)

/-- The result of a request that reads; other requests have none. -/
def result? (store : Store) : (request : Request) → Option (Except Error request.Result)
  | .readAttribute object type => some (store.read object type)
  | .readBool object type => some ((store.read object type).bind Attribute.bool?)
  | .readNumber object type => some ((store.read object type).bind Attribute.number?)
  | .readBytes object type => some ((store.read object type).bind Attribute.bytes?)
  | .readText object type => some ((store.read object type).bind Attribute.text?)
  | .readBigNat object type => some ((store.read object type).bind Attribute.bigNat?)
  | .readAttributes object types => some (store.readAll object types)
  | .readNumbers object types => some ((store.readAll object types).bind (types.mapM ·.number?))
  | .readBytesList object types => some ((store.readAll object types).bind (types.mapM ·.bytes?))
  | .readTexts object types => some ((store.readAll object types).bind (types.mapM ·.text?))
  | _ => none

/-- What a request does to a store, and its result. -/
inductive Step (store : Store) : (request : Request) → Except Error request.Result → Store → Prop
  | create {t : Template} {handle : Code} (fresh : store.Fresh handle) :
      Step store (.createObject t) (.ok handle)
        (store.enter handle (.make (Object.overlay (fun _ => none) t)))
  | copy {source handle : Code} {t : Template} {object : Object}
      (found : store.objects source = some object) (fresh : store.Fresh handle) :
      Step store (.copyObject source t) (.ok handle)
        (store.enter handle (.make (Object.overlay object.values t)))
  | copyUnknown {source : Code} {t : Template} (unknown : store.objects source = none) :
      Step store (.copyObject source t) (.error (.token Rv.objectHandleInvalid)) store
  | set {handle : Code} {t : Template} {object : Object} (found : store.objects handle = some object) :
      Step store (.setAttributes handle t) (.ok ())
        (store.replace handle (some { object with values := Object.overlay object.values t }))
  | setUnknown {handle : Code} {t : Template} (unknown : store.objects handle = none) :
      Step store (.setAttributes handle t) (.error (.token Rv.objectHandleInvalid)) store
  | destroy {handle : Code} {object : Object} (found : store.objects handle = some object) :
      Step store (.destroyObject handle) (.ok ()) (store.replace handle none)
  | destroyUnknown {handle : Code} (unknown : store.objects handle = none) :
      Step store (.destroyObject handle) (.error (.token Rv.objectHandleInvalid)) store
  | read {request : Request} {result : Except Error request.Result}
      (reads : store.result? request = some result) : Step store request result store

/-- The requests have these results one after the other, and lead from the first store to the second. -/
inductive Run : Store → List Event → Store → Prop
  | nil (store : Store) : Run store [] store
  | cons {store middle last : Store} {event : Event} {events : List Event}
      (step : store.Step event.request event.result middle) (rest : Run middle events last) :
      Run store (event :: events) last

end Store

end TokenClient
