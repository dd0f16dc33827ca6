import TokenClient.Proofs.Attribute.Editing
import TokenClient.Proofs.Attribute.Table
import TokenClient.Proofs.Session.Obtained
import TokenClient.Proofs.Text.WellFormed

/-!
# Values that attributes take

A value is stored in its own kind, and three times in a neighbouring one: a mechanism as a number, a number as a
mechanism, and the UTF-8 of a text as this text (`Value.StoredAs`). Bytes that are no UTF-8 do not become a text,
because nothing but the bytes of a text reads back as one.

An attribute is made with a value of the kind that the table lists for its type, or, if a vendor assigned the type,
with any value (`Attribute.MadeWith`). It is given a value in place (`Attribute.TakesOrKeeps`) without regard to what
the table has for its type, by its own kind; these are the same kind, in every attribute that a client gets hold of.
The attribute is brought to the kind of the value before the value is brought to the kind of the attribute. That this
leaves no attribute half written is `Attribute.assign_eq`.
-/

namespace TokenClient

/-! ## Values in a kind -/

/-- A value, a kind, and the value that stands for it in this kind. -/
inductive Value.StoredAs : Value → Kind → Value → Prop
  | own (value : Value) : StoredAs value value.kind value
  | number (n : Code) : StoredAs (.mechanism n) .number (.number n)
  | mechanism (n : Code) : StoredAs (.number n) .mechanism (.mechanism n)
  | text (s : String) : StoredAs (.bytes (Text.Utf8.encode s.toList)) .text (.text s)

namespace Value

variable {value stored : Value} {kind : Kind} {e : Error}

private theorem StoredAs.coerce_eq (h : value.StoredAs kind stored) : value.coerce kind = .ok stored := by
  cases h with
  | own => exact value.coerce_own_kind
  | number n => rfl
  | mechanism n => rfl
  | text s =>
    rw [coerce, Text.Utf8.decode?_encode]
    simp only [String.ofList_toList]

/-- A value is brought to a kind as what stands for it there. -/
theorem coerce_eq_ok_iff : value.coerce kind = .ok stored ↔ value.StoredAs kind stored := by
  refine ⟨fun h => ?_, StoredAs.coerce_eq⟩
  unfold coerce at h
  split at h
  next m =>
    cases h
    exact .number m
  next n =>
    cases h
    exact .mechanism n
  next b =>
    split at h
    next cs hcs =>
      cases h
      rw [← Text.Utf8.decode?_eq_some_iff.1 hcs]
      simpa only [String.toList_ofList] using StoredAs.text (String.ofList cs)
    next => cases h
  next =>
    split at h
    next hkind =>
      cases h
      exact hkind ▸ .own value
    next => cases h

/-- There is one way in which a value does not fit. -/
theorem coerce_error (h : value.coerce kind = .error e) : e = .token Rv.attributeValueInvalid := by
  unfold coerce at h
  split at h
  · cases h
  · cases h
  all_goals
    split at h <;> cases h
    rfl

/-- A value that nothing stands for is refused. -/
theorem coerce_eq_error_iff :
    value.coerce kind = .error e ↔
      (∀ stored, ¬ value.StoredAs kind stored) ∧ e = .token Rv.attributeValueInvalid := by
  simp only [← coerce_eq_ok_iff]
  constructor
  · intro h
    refine ⟨fun stored hstored => ?_, coerce_error h⟩
    rw [h] at hstored
    cases hstored
  · rintro ⟨unfit, rfl⟩
    cases h : value.coerce kind with
    | ok stored => exact absurd h (unfit stored)
    | error e => rw [coerce_error h]

end Value

/-! ## Attributes made with a value -/

namespace Attribute

/-- What comes of making an attribute of a type with a value. -/
inductive MadeWith (type : Code) (value : Value) : Except Error Attribute → Prop
  | stored {entry : AttributeType.Entry} {stored : Value} (listed : entry ∈ AttributeType.table)
      (typed : entry.type = type) (fits : value.StoredAs entry.kind stored) :
      MadeWith type value (.ok ⟨type, entry.kind, .held stored⟩)
  | unfit {entry : AttributeType.Entry} (listed : entry ∈ AttributeType.table) (typed : entry.type = type)
      (unfit : ∀ stored, ¬ value.StoredAs entry.kind stored) :
      MadeWith type value (.error (.token Rv.attributeValueInvalid))
  /-- A type that a vendor assigned takes a value as it is. -/
  | vendor (unlisted : ∀ entry ∈ AttributeType.table, entry.type ≠ type) (vendor : type.isVendor = true) :
      MadeWith type value (.ok ⟨type, value.kind, .held value⟩)
  | unknown (unlisted : ∀ entry ∈ AttributeType.table, entry.type ≠ type) (other : type.isVendor = false) :
      MadeWith type value (.error (.unknownAttributeType type))

variable {a b : Attribute} {type : Code} {value : Value} {kind : Kind} {outcome : Except Error Attribute}

private theorem kindFor_of_listed (listed : AttributeType.kind? type = some kind) (given : Option Kind) :
    AttributeType.kindFor type given = .ok kind := by
  rw [AttributeType.kindFor, listed]

private theorem kindFor_of_vendor (unlisted : AttributeType.kind? type = none) (vendor : type.isVendor = true) :
    AttributeType.kindFor type (some kind) = .ok kind := by
  rw [AttributeType.kindFor, unlisted, vendor]
  rfl

private theorem kindFor_of_unknown (unlisted : AttributeType.kind? type = none) (other : type.isVendor = false)
    (given : Option Kind) : AttributeType.kindFor type given = .error (.unknownAttributeType type) := by
  rw [AttributeType.kindFor, unlisted, other]
  rfl

/-- An attribute is made by coercing the value to the kind chosen for it. -/
private theorem withValue_of_kindFor (h : AttributeType.kindFor type (some value.kind) = .ok kind) :
    withValue type value = (value.coerce kind).map fun stored => ⟨type, kind, .held stored⟩ := by
  rw [withValue, h]
  rfl

/-- Each case of the specification is what the program does. -/
private theorem MadeWith.withValue_eq (h : MadeWith type value outcome) : withValue type value = outcome := by
  cases h with
  | stored listed typed fits =>
    have hkind := AttributeType.kind?_eq_some_iff.2 ⟨_, listed, typed, rfl⟩
    rw [withValue_of_kindFor (kindFor_of_listed hkind _), fits.coerce_eq]
    rfl
  | unfit listed typed unfit =>
    have hkind := AttributeType.kind?_eq_some_iff.2 ⟨_, listed, typed, rfl⟩
    rw [withValue_of_kindFor (kindFor_of_listed hkind _), Value.coerce_eq_error_iff.2 ⟨unfit, rfl⟩]
    rfl
  | vendor unlisted vendor =>
    rw [withValue_of_kindFor (kindFor_of_vendor (AttributeType.kind?_eq_none_iff.2 unlisted) vendor),
      value.coerce_own_kind]
    rfl
  | unknown unlisted other =>
    rw [withValue, kindFor_of_unknown (AttributeType.kind?_eq_none_iff.2 unlisted) other]
    rfl

/-- The cases leave nothing out. -/
theorem exists_madeWith (type : Code) (value : Value) : ∃ outcome, MadeWith type value outcome := by
  by_cases listed : ∃ entry ∈ AttributeType.table, entry.type = type
  · obtain ⟨entry, member, typed⟩ := listed
    by_cases fits : ∃ stored, value.StoredAs entry.kind stored
    · obtain ⟨stored, fits⟩ := fits
      exact ⟨_, .stored member typed fits⟩
    · exact ⟨_, .unfit member typed (not_exists.1 fits)⟩
  · have unlisted : ∀ entry ∈ AttributeType.table, entry.type ≠ type :=
      fun entry member typed => listed ⟨entry, member, typed⟩
    cases hvendor : type.isVendor with
    | true => exact ⟨_, .vendor unlisted hvendor⟩
    | false => exact ⟨_, .unknown unlisted hvendor⟩

/-- Making an attribute with a value has the outcome of the one case that applies. -/
theorem withValue_eq_iff : withValue type value = outcome ↔ MadeWith type value outcome := by
  constructor
  · rintro rfl
    obtain ⟨outcome, made⟩ := exists_madeWith type value
    rwa [made.withValue_eq]
  · exact MadeWith.withValue_eq

/-! ## Attributes that are given a value -/

/-- An attribute that is given a value in place takes it, or stays as it was. -/
structure TakesOrKeeps (a : Attribute) (value : Value) : Prop where
  /-- All of it is written or none of it. -/
  atomic : assign value a = (.error (.token Rv.attributeValueInvalid), a) ∨
    ∃ b stored, assign value a = (.ok (), b) ∧ value.StoredAs b.kind stored ∧ b.type = a.type ∧
      b.reading = .held stored ∧ b.reading.isPresent = true ∧ b.reading.isKnown = true ∧
        b.reading.isSensitive = false
  /-- If its type is listed, it becomes the attribute that is made with the value, or is not made either. -/
  listed : (∃ entry ∈ AttributeType.table, entry.type = a.type) →
    assign value a =
      match withValue a.type value with
      | .ok b => (.ok (), b)
      | .error e => (.error e, a)
  /-- A type that is not listed does not tell the kind; while there is no value, any value does. -/
  first : (∀ entry ∈ AttributeType.table, entry.type ≠ a.type) → a.reading.value? = none →
    assign value a = (.ok (), ⟨a.type, value.kind, .held value⟩)
  /-- After that it has the kind of the value that it holds. -/
  later : ∀ held, (∀ entry ∈ AttributeType.table, entry.type ≠ a.type) → a.reading = .held held →
    (assign value a).2.kind = held.kind ∧
      ((assign value a).1 = .ok () ↔ ∃ stored, value.StoredAs held.kind stored)

/-- A listed type keeps the kind of the table. -/
private theorem kindToStore_of_listed (listed : AttributeType.kind? a.type = some kind) (fits : a.FitsTable) :
    a.kindToStore value = kind := by
  rw [kindToStore, listed]
  split
  next hnone => cases hnone
  next => exact fits kind listed

/-- The first value of another type decides its kind. -/
private theorem kindToStore_of_first (unlisted : AttributeType.kind? a.type = none) (first : a.reading.value? = none) :
    a.kindToStore value = value.kind := by
  rw [kindToStore, unlisted, first]

/-- Later values keep the kind decided. -/
private theorem kindToStore_of_later {held : Value} (later : a.reading = .held held) :
    a.kindToStore value = a.kind := by
  rw [kindToStore, later]
  rfl

private theorem assign_of_coerce {stored : Value} (h : value.coerce (a.kindToStore value) = .ok stored) :
    assign value a = (.ok (), ⟨a.type, a.kindToStore value, .held stored⟩) := by
  rw [assign_eq, setValue, h]
  rfl

private theorem assign_of_coerce_error {e : Error} (h : value.coerce (a.kindToStore value) = .error e) :
    assign value a = (.error e, a) := by
  rw [assign_eq, setValue, h]
  rfl

/-- The kind that the attribute stores is the one that counts: that of the table, and that of the value it holds. -/
theorem takesOrKeeps (fits : a.FitsTable) (own : a.HoldsOwnKind) (value : Value) : a.TakesOrKeeps value where
  atomic := by
    cases h : value.coerce (a.kindToStore value) with
    | ok stored =>
      exact .inr ⟨_, stored, assign_of_coerce h, Value.coerce_eq_ok_iff.1 h, rfl, rfl, rfl, rfl, rfl⟩
    | error e =>
      obtain ⟨-, rfl⟩ := Value.coerce_eq_error_iff.1 h
      exact .inl (assign_of_coerce_error h)
  listed := by
    rintro ⟨entry, member, typed⟩
    have hkind := AttributeType.kind?_eq_some_iff.2 ⟨entry, member, typed, rfl⟩
    have hstore : a.kindToStore value = entry.kind := kindToStore_of_listed hkind fits
    rw [withValue_of_kindFor (kindFor_of_listed hkind _), ← hstore]
    cases h : value.coerce (a.kindToStore value) with
    | ok stored =>
      rw [assign_of_coerce h]
      rfl
    | error e =>
      rw [assign_of_coerce_error h]
      rfl
  first := by
    intro unlisted first
    have hstore : a.kindToStore value = value.kind :=
      kindToStore_of_first (AttributeType.kind?_eq_none_iff.2 unlisted) first
    rw [assign_of_coerce (hstore ▸ value.coerce_own_kind), hstore]
  later := by
    intro held _ later
    -- An attribute holds a value of its own kind, which is therefore the kind the next one is stored under.
    have hstore : a.kindToStore value = held.kind :=
      (kindToStore_of_later later).trans (own held later).symm
    cases h : value.coerce (a.kindToStore value) with
    | ok stored =>
      rw [assign_of_coerce h]
      rw [hstore] at h ⊢
      exact ⟨rfl, fun _ => ⟨stored, Value.coerce_eq_ok_iff.1 h⟩, fun _ => rfl⟩
    | error e =>
      rw [assign_of_coerce_error h]
      rw [hstore] at h
      refine ⟨(own held later).symm, ?_⟩
      constructor
      · intro hok
        cases hok
      · rintro ⟨stored, fits⟩
        exact absurd fits ((Value.coerce_eq_error_iff.1 h).1 stored)

/-- What comes of making an attribute with a value is said by the table and the kinds alone. An attribute that a
client gets hold of and gives a value either fails and stays just as it was, or holds the value; under a listed
type it is then the attribute that would be made with it. -/
theorem writes_exact (obtained : a.Obtained) (value : Value) :
    (∀ type outcome, withValue type value = outcome ↔ MadeWith type value outcome) ∧ a.TakesOrKeeps value := by
  obtain ⟨fits, -⟩ := obtained.throughout kept_fitsTable
  obtain ⟨own, -⟩ := obtained.throughout kept_holdsOwnKind
  exact ⟨fun _ _ => withValue_eq_iff, takesOrKeeps fits own value⟩

/-- An attribute of a vendor's type takes a number if it has no value, and refuses it if it holds a template. -/
theorem writes_exact_vendor :
    assign (.number 5) ⟨0x80000001, .bytes, .absent⟩ =
        (.ok (), ⟨0x80000001, .number, .held (.number 5)⟩) ∧
      (assign (.number 5) (vendorRestriction 6)).1 ≠ .ok () := by
  have unlisted : ∀ entry ∈ AttributeType.table, entry.type ≠ 0x80000001 :=
    AttributeType.kind?_eq_none_iff.1 rfl
  constructor
  · have obtained : Obtained ⟨0x80000001, .bytes, .absent⟩ :=
      .make (show make 0x80000001 = _ from rfl)
    exact (writes_exact obtained (.number 5)).2.first unlisted rfl
  · have restricted := (writes_exact (obtained_vendorRestriction 6) (.number 5)).2
    rw [Ne, (restricted.later _ unlisted rfl).2]
    rintro ⟨stored, fits⟩
    cases fits

end Attribute

end TokenClient
