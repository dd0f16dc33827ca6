import TokenClient.Attribute.Codec

/-!
# Templates edited in place

A client keeps a template and edits it: it sets a type to a value, adds an attribute, takes one out, gives a new
value to one that is there, or begins anew with types to be read or with what wire entries say. An edit writes
as it goes, and what it has written stays when it fails (`Update`). So where a value may be refused, what the
edit writes before that counts: an attribute that has no kind of its own is first brought to the kind of the value
that it is given (`Attribute.assign`).

No edit replaces an attribute where it stands by one of another type.
-/

namespace TokenClient

/-- An action on a state. What it has written is there even if it fails. -/
abbrev Update (σ α : Type) := ExceptT Error (StateM σ) α

namespace Update

variable {σ α β : Type}

/-- What follows a change starts from the changed state. -/
theorem modify_bind (f : σ → σ) (next : PUnit → Update σ β) (s : σ) :
    (modify f >>= next : Update σ β) s = next ⟨⟩ (f s) := rfl

/-- What follows a look at the state is given the state, and starts from it. -/
theorem get_bind (next : σ → Update σ β) (s : σ) : (get >>= next : Update σ β) s = next s s := rfl

/-- What may fail without writing anything leaves the state to what follows, or as it is. -/
theorem lift_bind (result : Except Error α) (next : α → Update σ β) (s : σ) :
    (liftM result >>= next : Update σ β) s =
      match result with
      | .ok a => next a s
      | .error e => (.error e, s) := by
  cases result <;> rfl

end Update

/-- Gives an attribute a new value in place: first it is brought to the kind in which it will store the value,
then it is known to hold it. -/
def Attribute.assign (value : Value) : Update Attribute Unit := do
  modify fun a => { a with kind := a.kindToStore value }
  let a ← get
  let stored ← value.coerce a.kind
  set { a with reading := .held stored }

namespace Template

/-- Updates the attribute of a type where it stands; nothing happens if there is no such attribute. -/
def updateAt (type : Code) (update : Update Attribute Unit) : Update Template Unit := fun t =>
  match t.get? type with
  | none => (.ok (), t)
  | some a =>
    let (result, updated) := update a
    (result, t.insert updated)

/-- What a client does with a template. -/
inductive Edit where
  | set (type : Code) (value : Value)
  | insert (a : Attribute)
  /-- Begins a new template, of attributes to be read. -/
  | ofTypes (types : List Code)
  /-- Begins a new template, with what wire entries say. -/
  | ofWire (encoding : Encoding) (entries : List WireAttribute)
  | erase (type : Code)
  /-- Gives a value to the attribute of a type, if there is one. -/
  | setValue (type : Code) (value : Value)

namespace Edit

/-- Carries out an edit. A new template takes the place of the old one when it is complete. -/
def perform : Edit → Update Template Unit
  | .set type value => do
    let a ← Attribute.withValue type value
    modify (·.insert a)
  | .insert a => modify (·.insert a)
  | .ofTypes types => do
    let begun ← Template.ofTypes types
    MonadStateOf.set begun
  | .ofWire encoding entries => do
    let begun ← Template.ofWire encoding entries
    MonadStateOf.set begun
  | .erase type => modify (·.erase type)
  | .setValue type value => updateAt type (Attribute.assign value)

/-- Whether an edit succeeds. -/
def result (edit : Edit) (t : Template) : Except Error Unit := (edit.perform t).1

/-- The template that an edit leaves, be it that it fails. -/
def after (edit : Edit) (t : Template) : Template := (edit.perform t).2

end Edit

/-- The template that edits leave, one after the other from an empty template. Those that fail are gone past. -/
def edited (edits : List Edit) : Template := edits.foldl (fun t edit => edit.after t) .empty

end Template

end TokenClient
