import TokenClient.Proofs.Attribute.Throughout

/-!
# Attributes and what they hold

An attribute has a kind, and the value that it holds, if any, is to be of this kind (`Attribute.HoldsOwnKind`). The
table of types fixes the kind of most attributes (`Attribute.FitsTable`), the first value that of others, and a value
may be given in a neighbouring kind. So this is not built into the type of attributes: it is shown of each way to make
an attribute and of each way to change one (`Attribute.kept_holdsOwnKind`, `Attribute.kept_fitsTable`).
-/

namespace TokenClient

variable {a b : Attribute} {value : Value} {type : Code} {kind : Kind} {reading : Reading}
  {encoding : Encoding}

/-! ## Attributes that are made and changed -/

namespace Attribute

/-- The value that an attribute holds is of its kind. -/
def HoldsOwnKind (a : Attribute) : Prop := ∀ value, a.reading = .held value → value.kind = a.kind

/-- An attribute without a value has nothing of a wrong kind. -/
theorem holdsOwnKind_of_value?_eq_none (none : a.reading.value? = none) : a.HoldsOwnKind := by
  intro value h
  rw [h] at none
  cases none

private theorem holdsOwnKind_held (fits : value.kind = kind) :
    (⟨type, kind, .held value⟩ : Attribute).HoldsOwnKind := by
  intro held h
  cases h
  exact fits

/-- A value that is brought to a kind is a value of it. -/
theorem holdsOwnKind_of_coerce {stored : Value} (h : value.coerce kind = .ok stored) :
    (⟨type, kind, .held stored⟩ : Attribute).HoldsOwnKind :=
  holdsOwnKind_held (Value.kind_of_coerce h)

/-- A value read from bytes is of the kind asked for. -/
private theorem holdsOwnKind_ofBytes {bytes : Bytes} (h : Reading.ofBytes encoding kind bytes = .ok reading) :
    (⟨type, kind, reading⟩ : Attribute).HoldsOwnKind := by
  obtain ⟨-, rfl⟩ | ⟨-, value, rfl, fits, -⟩ := Reading.ofBytes_cases h
  · exact holdsOwnKind_of_value?_eq_none rfl
  · exact holdsOwnKind_held fits

/-- A value read off the wire is of the kind asked for. -/
private theorem holdsOwnKind_ofWire {wire : WireValue} (h : Reading.ofWire encoding kind wire = .ok reading) :
    (⟨type, kind, reading⟩ : Attribute).HoldsOwnKind := by
  cases wire with
  | null =>
    rw [Reading.ofWire] at h
    cases h
    exact holdsOwnKind_of_value?_eq_none rfl
  | bytes b =>
    rw [Reading.ofWire] at h
    exact holdsOwnKind_ofBytes h
  | nested entries =>
    rw [Reading.ofWire] at h
    split at h
    next hkind =>
      obtain ⟨t, -, rfl⟩ := map_ok_iff.1 h
      exact holdsOwnKind_held hkind.symm
    next => cases h

/-- A value is renumbered within its kind. -/
theorem HoldsOwnKind.mapKeyTypes (before : a.HoldsOwnKind) (f : Code → Code) :
    (a.mapKeyTypes f).HoldsOwnKind := by
  obtain ⟨type, kind, reading⟩ := a
  cases reading with
  | held value =>
    obtain ⟨renumbered, hmap, hkind, -⟩ := exists_held_mapKeyTypes f type kind value
    rw [hmap]
    exact holdsOwnKind_held (hkind.trans (before value rfl))
  | unknown | absent | sensitive | empty =>
    rw [mapKeyTypes_of_value?_eq_none rfl]
    exact before

/-- However an attribute is made and changed, it holds a value of its kind. -/
theorem kept_holdsOwnKind : Kept HoldsOwnKind where
  make type a h := by
    obtain ⟨kind, -, rfl⟩ := map_ok_iff.1 h
    exact holdsOwnKind_of_value?_eq_none rfl
  withValue type value a h := by
    obtain ⟨kind, stored, -, hcoerce, rfl⟩ := exists_of_withValue h
    exact holdsOwnKind_of_coerce hcoerce
  ofWire encoding entry a h := by
    obtain ⟨reading, hreading, rfl⟩ := exists_of_ofWire h
    exact holdsOwnKind_ofWire hreading
  absent _ := holdsOwnKind_of_value?_eq_none rfl
  sensitive _ := holdsOwnKind_of_value?_eq_none rfl
  setValue a value b h _ := by
    obtain ⟨stored, hstored, rfl⟩ := map_ok_iff.1 h
    exact holdsOwnKind_of_coerce hstored
  mapKeyTypes f _ before := before.mapKeyTypes f

/-- An attribute of a type in the table is of the kind that the table has for it. -/
def FitsTable (a : Attribute) : Prop := ∀ kind, AttributeType.kind? a.type = some kind → a.kind = kind

/-- The kind chosen for a type is the one in the table, when the table has it. -/
private theorem fitsTable_of_kindFor {given : Option Kind} (h : AttributeType.kindFor type given = .ok kind) :
    (⟨type, kind, reading⟩ : Attribute).FitsTable := by
  intro known hknown
  change AttributeType.kind? type = some known at hknown
  rw [AttributeType.kindFor, hknown] at h
  exact (Except.ok.inj h).symm

private theorem fitsTable_wireKind : (⟨type, wireKind type, reading⟩ : Attribute).FitsTable := by
  intro known hknown
  change AttributeType.kind? type = some known at hknown
  change wireKind type = known
  rw [wireKind, hknown]
  rfl

/-- However an attribute is made and changed, its kind is that of the table. -/
theorem kept_fitsTable : Kept FitsTable where
  make type a h := by
    obtain ⟨kind, hkind, rfl⟩ := map_ok_iff.1 h
    exact fitsTable_of_kindFor hkind
  withValue type value a h := by
    obtain ⟨kind, stored, hkind, -, rfl⟩ := exists_of_withValue h
    exact fitsTable_of_kindFor hkind
  ofWire encoding entry a h := by
    obtain ⟨reading, -, rfl⟩ := exists_of_ofWire h
    exact fitsTable_wireKind
  absent _ := fitsTable_wireKind
  sensitive _ := fitsTable_wireKind
  setValue a value b h before := by
    obtain ⟨stored, -, rfl⟩ := map_ok_iff.1 h
    intro known hknown
    change AttributeType.kind? a.type = some known at hknown
    change a.kindToStore value = known
    unfold kindToStore
    split
    next _ hnone => rw [hnone] at hknown; cases hknown
    next => exact before known hknown
  mapKeyTypes f a before := by
    obtain ⟨type, kind, reading⟩ := a
    rw [mapKeyTypes]
    exact before

end Attribute

end TokenClient
