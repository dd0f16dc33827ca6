import TokenClient.Attribute.Flagged
import TokenClient.Attribute.KeyTypes
import TokenClient.Proofs.Attribute.Editing

/-!
# Readings laid out as flags

An attribute with a reading is laid out as an attribute with flags (`Attribute.flagged`). Each of the five readings is
one combination of the flags and of there being a value, and most combinations are no reading.

What is made and changed field by field is what comes of laying out what is made and changed as a reading: there is
one lemma for each of the operations, with its failures. So no operation leaves the combinations that are readings,
and what is known of readings is known of attributes with flags.
-/

namespace TokenClient

/-! ## Laying out -/

mutual

/-- A value with the attributes in it laid out. -/
def Value.flagged : Value → Flagged.Value
  | .template ⟨as⟩ => .template ⟨Attribute.flaggedAll as⟩
  | .bool b => .bool b
  | .number n => .number n
  | .bytes b => .bytes b
  | .text s => .text s
  | .date d => .date d
  | .mechanism m => .mechanism m
  | .mechanisms ms => .mechanisms ms

/-- The value that is stored for a reading. -/
def Reading.stored : Reading → Option Flagged.Value
  | .held v => some v.flagged
  | .unknown | .absent | .sensitive | .empty => none

/-- An attribute laid out. -/
def Attribute.flagged : Attribute → Flagged.Attribute
  | ⟨type, kind, reading⟩ =>
    ⟨type, kind, reading.stored, reading.isPresent, reading.isSensitive, reading.isKnown⟩

/-- A list of attributes laid out. -/
def Attribute.flaggedAll : List Attribute → List Flagged.Attribute
  | [] => []
  | a :: as => a.flagged :: Attribute.flaggedAll as

end

/-- A template with its attributes laid out. -/
def Template.flagged (t : Template) : Flagged.Template := ⟨Attribute.flaggedAll t.attributes⟩

/-- The attributes of a list are laid out one by one. -/
theorem Attribute.flaggedAll_eq_map (as : List Attribute) : Attribute.flaggedAll as = as.map Attribute.flagged := by
  induction as with
  | nil => rfl
  | cons a as ih => rw [Attribute.flaggedAll, ih, List.map_cons]

/-- The attributes of a laid out template are those of the template, laid out. -/
@[simp]
theorem Template.attributes_flagged (t : Template) : t.flagged.attributes = t.attributes.map Attribute.flagged :=
  Attribute.flaggedAll_eq_map t.attributes

@[simp]
private theorem Attribute.type_flagged (a : Attribute) : a.flagged.type = a.type := by
  cases a
  rw [Attribute.flagged]

/-- Laying a value out keeps its kind. -/
@[simp]
theorem Value.kind_flagged (v : Value) : v.flagged.kind = v.kind := by
  cases v with
  | template t => obtain ⟨as⟩ := t; rfl
  | bool _ | number _ | bytes _ | text _ | date _ | mechanism _ | mechanisms _ => rfl

/-- A template is laid out as the template of what it holds. -/
theorem Value.flagged_template (t : Template) : (Value.template t).flagged = .template t.flagged := by
  obtain ⟨as⟩ := t
  rfl

/-- What a reading stores is its value, laid out. -/
theorem Reading.stored_eq (reading : Reading) : reading.stored = reading.value?.map Value.flagged := by
  cases reading <;> rfl

/-- What stores a template holds it. -/
theorem Attribute.exists_template_of_stored {a : Attribute} {inner : Flagged.Template}
    (stores : a.flagged.stored = some (.template inner)) :
    ∃ t, a.reading = .held (.template t) ∧ inner = t.flagged := by
  obtain ⟨type, kind, reading⟩ := a
  cases reading with
  | held v =>
    cases v with
    | template t =>
      obtain ⟨as⟩ := t
      cases stores
      exact ⟨⟨as⟩, rfl, rfl⟩
    | bool _ | number _ | bytes _ | text _ | date _ | mechanism _ | mechanisms _ => cases stores
  | unknown | absent | sensitive | empty => cases stores

/-! ## Making -/

/-- A value is brought to a kind as it is laid out. -/
theorem Value.coerce_flagged (kind : Kind) (v : Value) : v.flagged.coerce kind = (v.coerce kind).map flagged := by
  cases v with
  | template t =>
    obtain ⟨as⟩ := t
    cases kind <;> rfl
  | bytes b =>
    cases kind with
    | text =>
      simp only [flagged, Flagged.Value.coerce, coerce]
      cases Text.Utf8.decode? b <;> rfl
    | bool | number | bytes | date | mechanism | mechanisms | template => rfl
  | bool _ | number _ | text _ | date _ | mechanism _ | mechanisms _ => cases kind <;> rfl

namespace Attribute

/-- An attribute is made of a type as it is laid out. -/
theorem flagged_make (type : Code) : Flagged.Attribute.make type = (make type).map flagged := by
  unfold Flagged.Attribute.make make
  cases AttributeType.kindFor type none <;> rfl

/-- An attribute is made with a value as it is laid out, and fails for the same reasons. -/
theorem flagged_withValue (type : Code) (v : Value) :
    Flagged.Attribute.withValue type v.flagged = (withValue type v).map flagged := by
  unfold Flagged.Attribute.withValue withValue
  rw [Value.kind_flagged]
  cases AttributeType.kindFor type (some v.kind) with
  | error e => rfl
  | ok kind =>
    change (v.flagged.coerce kind >>= fun stored => _) = _
    rw [Value.coerce_flagged]
    change _ = Except.map _ (v.coerce kind >>= fun stored => _)
    cases v.coerce kind <;> rfl

/-- A type that is refused is outside the table, and so are the vendors' types: both are read as bytes. -/
theorem wireKind_eq (type : Code) : Flagged.Attribute.wireKind type = wireKind type := by
  unfold Flagged.Attribute.wireKind wireKind AttributeType.kindFor
  cases AttributeType.kind? type with
  | some kind => rfl
  | none => cases type.isVendor <;> rfl

private theorem flagged_unknown (type : Code) : Flagged.Attribute.unknown type = (unknown type).flagged := by
  rw [Flagged.Attribute.unknown, wireKind_eq]
  rfl

/-- So is one that the token does not have. -/
theorem flagged_absent (type : Code) : Flagged.Attribute.absent type = (absent type).flagged := by
  rw [Flagged.Attribute.absent, Flagged.Attribute.unknown, wireKind_eq]
  rfl

/-- So is one that the token keeps to itself. -/
theorem flagged_sensitive (type : Code) : Flagged.Attribute.sensitive type = (sensitive type).flagged := by
  rw [Flagged.Attribute.sensitive, Flagged.Attribute.unknown, wireKind_eq]
  rfl

end Attribute

/-! ## Giving values -/

/-- The kind in which an attribute stores a value. -/
def Flagged.Attribute.kindToStore (a : Flagged.Attribute) (value : Flagged.Value) : Kind :=
  if a.stored.isNone && (AttributeType.kind? a.type).isNone then value.kind else a.kind

/-- What giving a value comes to: all that is written after the value has been brought to a kind is the same for
every attribute. -/
theorem Flagged.Attribute.setValue_eq (a : Flagged.Attribute) (value : Flagged.Value) :
    setValue value a =
      match value.coerce (a.kindToStore value) with
      | .ok stored => (.ok (), ⟨a.type, a.kindToStore value, some stored, true, false, true⟩)
      | .error e => (.error e, { a with kind := a.kindToStore value }) := by
  obtain ⟨type, kind, stored, isPresent, isSensitive, isKnown⟩ := a
  unfold setValue kindToStore
  simp only [Update.get_bind]
  split
  next =>
    simp only [Update.modify_bind, Update.get_bind, Update.lift_bind]
    cases value.coerce value.kind <;> rfl
  next =>
    change (liftM (value.coerce kind) >>= fun stored => _ : Update Flagged.Attribute Unit) _ = _
    simp only [Update.lift_bind]
    cases value.coerce kind <;> rfl

/-- Laying out does not change the kind in which a value is stored. -/
private theorem Attribute.kindToStore_flagged (a : Attribute) (v : Value) :
    a.flagged.kindToStore v.flagged = a.kindToStore v := by
  obtain ⟨type, kind, reading⟩ := a
  unfold Flagged.Attribute.kindToStore kindToStore
  simp only [flagged, Reading.stored_eq, Value.kind_flagged]
  cases reading.value? <;> cases AttributeType.kind? type <;> rfl

/-- A value is given field by field as it is given in place: the same attribute is left, be it that it fails. -/
theorem Attribute.setValue_flagged (a : Attribute) (v : Value) :
    Flagged.Attribute.setValue v.flagged a.flagged = ((assign v a).1, (assign v a).2.flagged) := by
  obtain ⟨type, kind, reading⟩ := a
  rw [Flagged.Attribute.setValue_eq, kindToStore_flagged, Value.coerce_flagged, assign, Update.modify_bind,
    Update.get_bind, Update.lift_bind]
  cases v.coerce (kindToStore ⟨type, kind, reading⟩ v) <;> rfl

/-! ## Renumbering -/

/-- A number is renumbered as it is laid out. -/
private theorem Attribute.mapNumber_flagged (f : Code → Code) (type : Code) (kind : Kind) (reading : Reading) :
    (flagged ⟨type, kind, reading⟩).mapNumber f = flagged ⟨type, kind, reading.mapNumber f⟩ := by
  cases reading with
  | held v =>
    cases v with
    | template t => obtain ⟨as⟩ := t; rfl
    | bool _ | number _ | bytes _ | text _ | date _ | mechanism _ | mechanisms _ => rfl
  | unknown | absent | sensitive | empty => rfl

mutual

private theorem Reading.mapStored_stored (f : Code → Code) : ∀ reading : Reading,
    Flagged.Attribute.mapStored f reading.stored = (reading.mapKeyTypes f).stored
  | .held (.template ⟨as⟩) => by
    simp only [Reading.stored, Value.flagged, Flagged.Attribute.mapStored, Reading.mapKeyTypes, Value.mapKeyTypes,
      Attribute.mapKeyTypesAll_flagged f as]
  | .held (.bool _) | .held (.number _) | .held (.bytes _) | .held (.text _) | .held (.date _)
  | .held (.mechanism _) | .held (.mechanisms _) => rfl
  | .unknown | .absent | .sensitive | .empty => rfl

/-- Key types are renumbered as they are laid out. -/
theorem Attribute.mapKeyTypes_flagged (f : Code → Code) : ∀ a : Attribute,
    a.flagged.mapKeyTypes f = (a.mapKeyTypes f).flagged
  | ⟨type, kind, reading⟩ => by
    rw [Attribute.mapKeyTypes, Attribute.flagged, Flagged.Attribute.mapKeyTypes]
    split
    next => exact Attribute.mapNumber_flagged f type kind reading
    next =>
      rw [Reading.mapStored_stored f reading, Attribute.flagged]
      cases reading <;> rfl

private theorem Attribute.mapKeyTypesAll_flagged (f : Code → Code) : ∀ as : List Attribute,
    Flagged.Attribute.mapKeyTypesAll f (Attribute.flaggedAll as) =
      Attribute.flaggedAll (Attribute.mapKeyTypesAll f as)
  | [] => rfl
  | a :: as => by
    rw [Attribute.flaggedAll, Flagged.Attribute.mapKeyTypesAll, Attribute.mapKeyTypes_flagged f a,
      Attribute.mapKeyTypesAll_flagged f as, Attribute.mapKeyTypesAll, Attribute.flaggedAll]

end

/-! ## Accessors -/

/-- The value of what is laid out is the value, laid out. -/
theorem Attribute.value_flagged (a : Attribute) : a.flagged.value = a.value.map (·.map Value.flagged) := by
  obtain ⟨type, kind, reading⟩ := a
  cases reading <;> rfl

/-- An accessor of what is laid out sees the value as it is laid out. -/
theorem Attribute.read_flagged {α : Type} (pick : Flagged.Value → Option α) (a : Attribute) :
    a.flagged.read pick = a.read (pick ∘ Value.flagged) := by
  obtain ⟨type, kind, reading⟩ := a
  cases reading <;> rfl

/-! ## Templates -/

/-- An attribute is inserted into a list as it is laid out. -/
private theorem Attribute.insertInto_flagged (a : Attribute) (as : List Attribute) :
    Flagged.Template.insertInto a.flagged (as.map flagged) = (a.insertInto as).map flagged := by
  induction as with
  | nil => rfl
  | cons b as ih =>
    simp only [List.map_cons, Flagged.Template.insertInto, insertInto, type_flagged, ih]
    split <;> rfl

/-- An attribute is inserted into a template as it is laid out. -/
theorem Template.insert_flagged (t : Template) (a : Attribute) :
    t.flagged.insert a.flagged = (t.insert a).flagged := by
  rw [Flagged.Template.insert, attributes_flagged, Attribute.insertInto_flagged, flagged, Attribute.flaggedAll_eq_map]
  rfl

/-! ## The wire -/

mutual

/-- The wire form of a value is that of what is laid out. -/
theorem Value.toWire_flagged (encoding : Encoding) : ∀ v : Value, v.flagged.toWire encoding = v.toWire encoding
  | .template ⟨as⟩ => by
    rw [Value.flagged, Flagged.Value.toWire, Value.toWire, Attribute.allToWire_flagged encoding as]
  | .bool _ | .number _ | .bytes _ | .text _ | .date _ | .mechanism _ | .mechanisms _ => rfl

/-- The wire form of an attribute is that of what is laid out. -/
theorem Attribute.toWire_flagged (encoding : Encoding) : ∀ a : Attribute,
    a.flagged.toWire encoding = a.toWire encoding
  | ⟨type, kind, .held v⟩ => by
    simp only [Attribute.flagged, Reading.stored, Flagged.Attribute.toWire, Attribute.toWire, Reading.toWire,
      Value.toWire_flagged encoding v]
  | ⟨type, kind, .unknown⟩ | ⟨type, kind, .absent⟩ | ⟨type, kind, .sensitive⟩ | ⟨type, kind, .empty⟩ => rfl

/-- So are the wire forms of the attributes of a list. -/
private theorem Attribute.allToWire_flagged (encoding : Encoding) : ∀ as : List Attribute,
    Flagged.Attribute.allToWire encoding (Attribute.flaggedAll as) = Attribute.allToWire encoding as
  | [] => rfl
  | a :: as => by
    rw [Attribute.flaggedAll, Flagged.Attribute.allToWire, Attribute.allToWire, Attribute.toWire_flagged encoding a,
      Attribute.allToWire_flagged encoding as]

end

/-- The attribute that bytes stand for is present and known, with or without a value, and so is what is laid out. -/
theorem Reading.flagged_ofBytes (encoding : Encoding) (type : Code) (kind : Kind) (bytes : Bytes) :
    ((Flagged.Value.ofBytes encoding kind bytes).map fun stored =>
        (⟨type, kind, stored, true, false, true⟩ : Flagged.Attribute)) =
      (ofBytes encoding kind bytes).map fun reading => Attribute.flagged ⟨type, kind, reading⟩ := by
  unfold Flagged.Value.ofBytes ofBytes
  cases kind with
  | bool | bytes | text => rfl
  | number | mechanism =>
    dsimp only
    split
    next => rfl
    next => cases Word.ofBytes bytes <;> rfl
  | date => rcases Date.ofBytes bytes with _ | _ | _ <;> rfl
  | mechanisms => cases Word.arrayOfBytes bytes <;> rfl
  | template =>
    dsimp only
    split <;> rfl

mutual

/-- What a wire attribute stands for is laid out, and it fails for the same reasons. -/
theorem Attribute.flagged_ofWire (encoding : Encoding) : ∀ entry : WireAttribute,
    Flagged.Attribute.ofWire encoding entry = (Attribute.ofWire encoding entry).map Attribute.flagged
  | ⟨type, .null⟩ => by
    simp only [Flagged.Attribute.ofWire, Attribute.ofWire, Reading.ofWire, Attribute.flagged_unknown]
    rfl
  | ⟨type, .bytes b⟩ => by
    simp only [Flagged.Attribute.ofWire, Attribute.ofWire, Reading.ofWire, Attribute.wireKind_eq,
      Reading.flagged_ofBytes]
    cases Reading.ofBytes encoding (Attribute.wireKind type) b <;> rfl
  | ⟨type, .nested entries⟩ => by
    have inner := Template.flagged_ofWireOnto encoding .empty entries
    simp only [Flagged.Attribute.ofWire, Attribute.ofWire, Reading.ofWire, Attribute.wireKind_eq]
    split
    next =>
      rw [show Flagged.Template.empty = Template.empty.flagged from rfl, inner]
      cases Template.ofWireOnto encoding .empty entries with
      | error e => rfl
      | ok t => simp only [Except.map, Attribute.flagged, Reading.stored, Value.flagged_template,
          Reading.isPresent, Reading.isSensitive, Reading.isKnown]
    next => rfl

/-- What entries stand for is laid out one after the other, up to the first that fails. -/
private theorem Template.flagged_ofWireOnto (encoding : Encoding) (t : Template) : ∀ entries : List WireAttribute,
    Flagged.Template.ofWireOnto encoding t.flagged entries =
      (Template.ofWireOnto encoding t entries).map Template.flagged
  | [] => rfl
  | entry :: entries => by
    rw [Flagged.Template.ofWireOnto, Attribute.flagged_ofWire encoding entry, Template.ofWireOnto]
    cases Attribute.ofWire encoding entry with
    | error e => rfl
    | ok a =>
      simp only [Except.map, Template.insert_flagged]
      exact Template.flagged_ofWireOnto encoding (t.insert a) entries

end

/-! ## Text -/

mutual

/-- The text of a value is that of what is laid out. -/
theorem Value.display_flagged (type : Code) : ∀ v : Value, v.flagged.display type = v.display type
  | .template ⟨as⟩ => by
    rw [Value.flagged, Flagged.Value.display, Value.display, Attribute.displays_flagged as]
  | .bool _ | .number _ | .bytes _ | .text _ | .date _ | .mechanism _ | .mechanisms _ => rfl

/-- The text of an attribute is that of what is laid out. -/
theorem Attribute.display_flagged : ∀ a : Attribute, a.flagged.display = a.display
  | ⟨type, kind, .held v⟩ => by
    rw [Attribute.display, Reading.display, ← Value.display_flagged type v]
    rfl
  | ⟨type, kind, .unknown⟩ | ⟨type, kind, .absent⟩ | ⟨type, kind, .sensitive⟩ | ⟨type, kind, .empty⟩ => rfl

private theorem Attribute.displays_flagged : ∀ as : List Attribute,
    Flagged.Attribute.displays (Attribute.flaggedAll as) = Attribute.displays as
  | [] => rfl
  | a :: as => by
    rw [Attribute.flaggedAll, Flagged.Attribute.displays, Attribute.displays, Attribute.display_flagged a,
      Attribute.displays_flagged as]

end

/-! ## Equality -/

mutual

/-- Two values are equal just if they are laid out as equal ones. -/
theorem Value.same_flagged : ∀ v w : Value, v.flagged.same w.flagged = v.same w
  | .template ⟨as⟩, w => by
    cases w with
    | template u =>
      obtain ⟨bs⟩ := u
      rw [Value.flagged, Value.flagged, Flagged.Value.same, Value.same, Attribute.allIn_flagged bs as,
        Attribute.flaggedAll_eq_map, Attribute.flaggedAll_eq_map, List.length_map, List.length_map]
    | bool _ | number _ | bytes _ | text _ | date _ | mechanism _ | mechanisms _ =>
      simp [Value.flagged, Flagged.Value.same, Value.same]
  | .bool _, w | .number _, w | .bytes _, w | .text _, w | .date _, w | .mechanism _, w | .mechanisms _, w => by
    cases w with
    | template u =>
      obtain ⟨bs⟩ := u
      simp [Value.flagged, Flagged.Value.same, Value.same]
    | bool _ | number _ | bytes _ | text _ | date _ | mechanism _ | mechanisms _ =>
      simp [Value.flagged, Flagged.Value.same, Value.same]

/-- The flags and the values of two attributes are equal just if their readings are. -/
theorem Attribute.same_flagged : ∀ a b : Attribute, a.flagged.same b.flagged = a.same b
  | ⟨type, kind, .held v⟩, ⟨other, kind', reading⟩ => by
    by_cases h : type = other
    · cases reading with
      | held w =>
        simp [Attribute.flagged, Flagged.Attribute.same, Attribute.same, Reading.same, Reading.stored,
          Reading.isPresent, Reading.isSensitive, Reading.isKnown, Flagged.Value.sameStored, h,
          Value.same_flagged v w]
      | unknown | absent | sensitive | empty =>
        simp [Attribute.flagged, Flagged.Attribute.same, Attribute.same, Reading.same, Reading.stored,
          Reading.isPresent, Reading.isSensitive, Reading.isKnown, Flagged.Value.sameStored]
    · simp [Attribute.flagged, Flagged.Attribute.same, Attribute.same, h]
  | ⟨type, kind, .unknown⟩, ⟨other, kind', reading⟩ | ⟨type, kind, .absent⟩, ⟨other, kind', reading⟩
  | ⟨type, kind, .sensitive⟩, ⟨other, kind', reading⟩ | ⟨type, kind, .empty⟩, ⟨other, kind', reading⟩ => by
    by_cases h : type = other <;> cases reading <;>
      simp [Attribute.flagged, Flagged.Attribute.same, Attribute.same, Reading.same, Reading.stored,
        Reading.isPresent, Reading.isSensitive, Reading.isKnown, Flagged.Value.sameStored, h]

/-- The attributes of one list are looked up in another as they are laid out. -/
private theorem Attribute.allIn_flagged (bs : List Attribute) : ∀ as : List Attribute,
    Flagged.Attribute.allIn (Attribute.flaggedAll bs) (Attribute.flaggedAll as) = Attribute.allIn bs as
  | [] => by rw [Attribute.flaggedAll, Flagged.Attribute.allIn, Attribute.allIn]
  | a :: as => by
    have found : (bs.map Attribute.flagged).find? (·.type == a.flagged.type) =
        (bs.find? (·.type == a.type)).map Attribute.flagged := by
      rw [List.find?_map]
      simp only [Function.comp_def, Attribute.type_flagged]
    rw [Attribute.flaggedAll, Flagged.Attribute.allIn, Attribute.allIn, Attribute.allIn_flagged bs as,
      Attribute.flaggedAll_eq_map, found]
    cases bs.find? (·.type == a.type) with
    | none => rfl
    | some b => exact congrArg (· && _) (Attribute.same_flagged a b)

end

end TokenClient
