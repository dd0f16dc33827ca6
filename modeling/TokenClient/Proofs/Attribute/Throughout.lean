import TokenClient.Proofs.Attribute.Grammar
import TokenClient.Proofs.Attribute.KeyTypes

/-!
# What holds at every level

An attribute may hold a template, and this one attributes again. What holds of an attribute and of those in it at
every level holds throughout it (`Attribute.Throughout`).

Attributes are made, read from the wire, given values and renumbered. If a property holds of what is made and read
and is kept by the rest (`Attribute.Kept`), then it holds throughout: a template in an attribute is the one that was
given, or its attributes were read or renumbered themselves.
-/

namespace TokenClient

/-- Something holds of an attribute, and of those in the template in it at every level. -/
inductive Attribute.Throughout (P : Attribute → Prop) : Attribute → Prop
  | mk {a : Attribute} (here : P a)
      (nested : ∀ inner, a.reading = .held (.template inner) → ∀ b ∈ inner.attributes, Throughout P b) :
      Throughout P a

/-- Something holds throughout all attributes of a template. -/
def Template.Throughout (P : Attribute → Prop) (t : Template) : Prop := ∀ a ∈ t.attributes, a.Throughout P

/-- Something holds throughout the attributes of a value that is a template. -/
def Value.Throughout (P : Attribute → Prop) (value : Value) : Prop :=
  ∀ inner, value = .template inner → inner.Throughout P

/-- Something holds of every attribute that is made or read, and an attribute that is given a value or renumbered
keeps it. -/
structure Attribute.Kept (P : Attribute → Prop) : Prop where
  make : ∀ type a, make type = .ok a → P a
  withValue : ∀ type value a, withValue type value = .ok a → P a
  ofWire : ∀ encoding entry a, ofWire encoding entry = .ok a → P a
  absent : ∀ type, P (.absent type)
  sensitive : ∀ type, P (.sensitive type)
  setValue : ∀ a value b, a.setValue value = .ok b → P a → P b
  mapKeyTypes : ∀ f a, P a → P (a.mapKeyTypes f)

variable {P : Attribute → Prop} {a b : Attribute} {t u : Template} {value : Value} {type : Code} {kind : Kind}
  {reading : Reading} {encoding : Encoding}

namespace Attribute

/-- An attribute that is made with a value holds it, brought to its kind. -/
theorem exists_of_withValue (h : withValue type value = .ok a) :
    ∃ kind stored, AttributeType.kindFor type (some value.kind) = .ok kind ∧ value.coerce kind = .ok stored ∧
      a = ⟨type, kind, .held stored⟩ := by
  obtain ⟨kind, hkind, hstored⟩ := bind_ok_iff.1 h
  obtain ⟨stored, hcoerce, hdone⟩ := bind_ok_iff.1 hstored
  exact ⟨kind, stored, hkind, hcoerce, (Except.ok.inj hdone).symm⟩

/-- An attribute is read from its value, by the kind for its type. -/
theorem exists_of_ofWire {entry : WireAttribute} (h : ofWire encoding entry = .ok a) :
    ∃ reading, Reading.ofWire encoding (wireKind entry.type) entry.value = .ok reading ∧
      a = ⟨entry.type, wireKind entry.type, reading⟩ := by
  obtain ⟨type, value⟩ := entry
  rw [ofWire] at h
  obtain ⟨reading, hreading, rfl⟩ := map_ok_iff.1 h
  exact ⟨reading, hreading, rfl⟩

/-- There is nothing in an attribute without a value. -/
theorem throughout_of_value?_eq_none (here : P a) (none : a.reading.value? = none) : a.Throughout P := by
  refine .mk here fun inner h => ?_
  rw [h] at none
  cases none

/-- What holds of an attribute and of the template it holds, holds throughout. -/
theorem throughout_held (here : P ⟨type, kind, .held value⟩) (nested : value.Throughout P) :
    (⟨type, kind, .held value⟩ : Attribute).Throughout P := by
  refine .mk here fun inner h => ?_
  cases h
  exact nested inner rfl

/-- A value that is brought to a kind has the template in it that was given. -/
theorem throughout_of_coerce {stored : Value} (here : P ⟨type, kind, .held stored⟩)
    (h : value.coerce kind = .ok stored) (nested : value.Throughout P) :
    (⟨type, kind, .held stored⟩ : Attribute).Throughout P := by
  refine throughout_held here ?_
  rintro inner rfl
  exact nested inner (Value.eq_of_coerce_template h)

/-- Two properties the operations keep are kept together. -/
theorem Kept.and {Q : Attribute → Prop} (first : Kept P) (second : Kept Q) : Kept fun a => P a ∧ Q a where
  make type a h := ⟨first.make type a h, second.make type a h⟩
  withValue type value a h := ⟨first.withValue type value a h, second.withValue type value a h⟩
  ofWire encoding entry a h := ⟨first.ofWire encoding entry a h, second.ofWire encoding entry a h⟩
  absent type := ⟨first.absent type, second.absent type⟩
  sensitive type := ⟨first.sensitive type, second.sensitive type⟩
  setValue a value b h before := ⟨first.setValue a value b h before.1, second.setValue a value b h before.2⟩
  mapKeyTypes f a before := ⟨first.mapKeyTypes f a before.1, second.mapKeyTypes f a before.2⟩

namespace Kept

variable (kept : Kept P)

include kept

/-- A new attribute has a kept property throughout. -/
theorem throughout_make (h : Attribute.make type = .ok a) : a.Throughout P := by
  have here := kept.make type a h
  obtain ⟨kind, -, rfl⟩ := map_ok_iff.1 h
  exact throughout_of_value?_eq_none here rfl

/-- So has one made with a value that has it. -/
theorem throughout_withValue (h : Attribute.withValue type value = .ok a) (nested : value.Throughout P) :
    a.Throughout P := by
  have here := kept.withValue type value a h
  obtain ⟨kind, stored, -, hcoerce, rfl⟩ := exists_of_withValue h
  exact throughout_of_coerce here hcoerce nested

/-- Writing a value that has the property keeps it. -/
theorem throughout_setValue (h : a.setValue value = .ok b) (before : P a) (nested : value.Throughout P) :
    b.Throughout P := by
  have here := kept.setValue a value b h before
  obtain ⟨stored, hcoerce, rfl⟩ := map_ok_iff.1 h
  exact throughout_of_coerce here hcoerce nested

end Kept

end Attribute

/-- The empty template has every property throughout. -/
theorem Template.throughout_empty : Template.empty.Throughout P := fun _ hmem => absurd hmem List.not_mem_nil

/-- Inserting an attribute keeps a property of both. -/
theorem Template.Throughout.insert (before : t.Throughout P) (new : a.Throughout P) :
    (t.insert a).Throughout P := by
  intro b hb
  rcases Attribute.mem_insertInto hb with rfl | hmem
  · exact new
  · exact before b hmem

/-- A value is given to an attribute where it stands in a template. -/
theorem Template.Throughout.setValue? (before : t.Throughout P) (kept : Attribute.Kept P)
    (h : t.setValue? type value = some (.ok u)) (nested : value.Throughout P) : u.Throughout P := by
  obtain ⟨a, ha, hset⟩ := Option.map_eq_some_iff.1 h
  obtain ⟨b, hb, rfl⟩ := map_ok_iff.1 hset
  obtain ⟨here, -⟩ := before a (List.mem_of_find?_eq_some ha)
  exact before.insert (kept.throughout_setValue hb here nested)

/-! ## Reading from the wire -/

/-- The only template that is written as bytes is empty. -/
theorem Reading.eq_empty_of_ofBytes {bytes : Bytes} {inner : Template}
    (h : Reading.ofBytes encoding kind bytes = .ok (.held (.template inner))) : inner = .empty := by
  obtain ⟨-, hempty⟩ | ⟨-, value, hheld, -, -, empty⟩ := Reading.ofBytes_cases h
  · cases hempty
  · cases hheld
    exact empty inner rfl

mutual

/-- A nested template read off the wire has the property each of its attributes has. -/
private theorem Attribute.nested_ofWire {kind : Kind} {wire : WireValue} {inner : Template}
    (each : ∀ entry a, Attribute.ofWire encoding entry = .ok a → P a)
    (h : Reading.ofWire encoding kind wire = .ok (.held (.template inner))) : inner.Throughout P := by
  cases wire with
  | null =>
    rw [Reading.ofWire] at h
    cases h
  | bytes b =>
    rw [Reading.ofWire] at h
    rw [Reading.eq_empty_of_ofBytes h]
    exact Template.throughout_empty
  | nested entries =>
    rw [Reading.ofWire] at h
    split at h
    next =>
      obtain ⟨t, ht, heq⟩ := map_ok_iff.1 h
      cases heq
      exact Template.throughout_ofWireOnto each ht Template.throughout_empty
    next => cases h

/-- What holds of every attribute that is read holds throughout it. -/
theorem Attribute.throughout_ofWire {entry : WireAttribute} {a : Attribute}
    (each : ∀ entry a, Attribute.ofWire encoding entry = .ok a → P a)
    (h : Attribute.ofWire encoding entry = .ok a) : a.Throughout P := by
  have here := each entry a h
  obtain ⟨type, wire⟩ := entry
  rw [Attribute.ofWire] at h
  obtain ⟨reading, hreading, rfl⟩ := map_ok_iff.1 h
  refine .mk here fun inner hinner => ?_
  obtain rfl : reading = .held (.template inner) := hinner
  exact Attribute.nested_ofWire each hreading

/-- Reading entries into a template keeps a property that each attribute read has. -/
theorem Template.throughout_ofWireOnto {t u : Template} {entries : List WireAttribute}
    (each : ∀ entry a, Attribute.ofWire encoding entry = .ok a → P a)
    (h : Template.ofWireOnto encoding t entries = .ok u) (before : t.Throughout P) : u.Throughout P := by
  cases entries with
  | nil =>
    rw [Template.ofWireOnto] at h
    cases h
    exact before
  | cons entry entries =>
    rw [Template.ofWireOnto] at h
    split at h
    next => cases h
    next a ha =>
      exact Template.throughout_ofWireOnto each h (before.insert (Attribute.throughout_ofWire each ha))

end

/-! ## Renumbering -/

/-- The attributes in a renumbered attribute are those in it before, renumbered, or just as they were. -/
theorem Attribute.Throughout.mapKeyTypes {f : Code → Code} (before : a.Throughout P)
    (renumbered : ∀ a : Attribute, P a → P (a.mapKeyTypes f)) : (a.mapKeyTypes f).Throughout P := by
  induction before with
  | @mk a here nested ih =>
    refine .mk (renumbered a here) fun inner hinner => ?_
    obtain ⟨type, kind, reading⟩ := a
    cases reading with
    | held value =>
      obtain ⟨renumbered, hmap, -, htemplate⟩ := exists_held_mapKeyTypes f type kind value
      rw [hmap] at hinner
      obtain rfl | ⟨t, rfl, rfl⟩ := htemplate inner (Reading.held.inj hinner)
      · exact nested inner rfl
      · intro b hb
        rw [Template.attributes_mapKeyTypes] at hb
        obtain ⟨c, hc, rfl⟩ := List.mem_map.1 hb
        exact ih t rfl c hc
    | unknown | absent | sensitive | empty =>
      rw [Attribute.mapKeyTypes] at hinner
      split at hinner <;> cases hinner

end TokenClient
