import TokenClient.Attribute.KeyTypes
import TokenClient.Proofs.Attribute.RoundTrip

/-!
# Renumbered templates

A client renumbers the key types of a template on the way out and on the way back. This gives an attribute
back if the two renumberings are inverse on the key types that stand in it, at any level
(`Attribute.mapKeyTypes_inverse`); for other key types nothing is promised. A renumbered template
is otherwise as before: it has the same types in the same order, the same texts, and it is regular if the
template is (`Template.Regular.mapKeyTypes`).
-/

namespace TokenClient

/-- The number that a reading holds, if it holds one. -/
def Reading.numbers : Reading → List Code
  | .held (.number n) => [n]
  | _ => []

mutual

/-- The key types in a value, at every level. -/
def Value.keyTypes : Value → List Code
  | .template ⟨as⟩ => Attribute.keyTypesAll as
  | .bool _ | .number _ | .bytes _ | .text _ | .date _ | .mechanism _ | .mechanisms _ => []

/-- The key types in a reading, at every level. -/
def Reading.keyTypes : Reading → List Code
  | .held v => v.keyTypes
  | .unknown | .absent | .sensitive | .empty => []

/-- The key types in an attribute: its own number if it is a key type, else those of a template in it. -/
def Attribute.keyTypes : Attribute → List Code
  | ⟨type, _, reading⟩ => if type = AttributeType.keyType then reading.numbers else reading.keyTypes

/-- The key types in a list of attributes, at every level. -/
def Attribute.keyTypesAll : List Attribute → List Code
  | [] => []
  | a :: as => a.keyTypes ++ Attribute.keyTypesAll as

end

/-- The key types in a template, at every level. -/
def Template.keyTypes (t : Template) : List Code := Attribute.keyTypesAll t.attributes

variable {f g : Code → Code} {encoding : Encoding}

/-! ## There and back -/

/-- Rewriting a number twice is rewriting it once by the composition. -/
private theorem Reading.mapNumber_mapNumber (f g : Code → Code) (reading : Reading) :
    (reading.mapNumber f).mapNumber g = reading.mapNumber fun k => g (f k) := by
  cases reading with
  | held value => cases value <;> rfl
  | unknown | absent | sensitive | empty => rfl

/-- A map that fixes the number changes nothing. -/
private theorem Reading.mapNumber_eq_self {reading : Reading} (fixed : ∀ k ∈ reading.numbers, f k = k) :
    reading.mapNumber f = reading := by
  cases reading with
  | held value =>
    cases value with
    | number n => exact congrArg (fun n => Reading.held (.number n)) (fixed n List.mem_cons_self)
    | bool _ | bytes _ | text _ | date _ | mechanism _ | mechanisms _ | template _ => rfl
  | unknown | absent | sensitive | empty => rfl

mutual

/-- Rewriting key types twice is rewriting them once by the composition. -/
theorem Value.mapKeyTypes_mapKeyTypes (f g : Code → Code) : ∀ value : Value,
    (value.mapKeyTypes f).mapKeyTypes g = value.mapKeyTypes fun k => g (f k)
  | .template ⟨as⟩ => by
    rw [Value.mapKeyTypes, Value.mapKeyTypes, Value.mapKeyTypes,
      Attribute.mapKeyTypesAll_mapKeyTypesAll f g as]
  | .bool _ | .number _ | .bytes _ | .text _ | .date _ | .mechanism _ | .mechanisms _ => by
    rw [Value.mapKeyTypes, Value.mapKeyTypes, Value.mapKeyTypes]

private theorem Reading.mapKeyTypes_mapKeyTypes (f g : Code → Code) : ∀ reading : Reading,
    (reading.mapKeyTypes f).mapKeyTypes g = reading.mapKeyTypes fun k => g (f k)
  | .held value => by
    rw [Reading.mapKeyTypes, Reading.mapKeyTypes, Reading.mapKeyTypes,
      Value.mapKeyTypes_mapKeyTypes f g value]
  | .unknown | .absent | .sensitive | .empty => by
    rw [Reading.mapKeyTypes, Reading.mapKeyTypes, Reading.mapKeyTypes]

private theorem Attribute.mapKeyTypes_mapKeyTypes (f g : Code → Code) : ∀ a : Attribute,
    (a.mapKeyTypes f).mapKeyTypes g = a.mapKeyTypes fun k => g (f k)
  | ⟨type, kind, reading⟩ => by
    rw [Attribute.mapKeyTypes, Attribute.mapKeyTypes, Attribute.mapKeyTypes]
    split
    next => rw [Reading.mapNumber_mapNumber]
    next => rw [Reading.mapKeyTypes_mapKeyTypes f g reading]

private theorem Attribute.mapKeyTypesAll_mapKeyTypesAll (f g : Code → Code) : ∀ as : List Attribute,
    Attribute.mapKeyTypesAll g (Attribute.mapKeyTypesAll f as) =
      Attribute.mapKeyTypesAll (fun k => g (f k)) as
  | [] => by rw [Attribute.mapKeyTypesAll, Attribute.mapKeyTypesAll, Attribute.mapKeyTypesAll]
  | a :: as => by
    rw [Attribute.mapKeyTypesAll, Attribute.mapKeyTypesAll, Attribute.mapKeyTypesAll,
      Attribute.mapKeyTypes_mapKeyTypes f g a, Attribute.mapKeyTypesAll_mapKeyTypesAll f g as]

end

mutual

/-- A map that fixes every key type in a value changes nothing of it. -/
theorem Value.mapKeyTypes_eq_self : ∀ value : Value, (∀ k ∈ value.keyTypes, f k = k) →
    value.mapKeyTypes f = value
  | .template ⟨as⟩, fixed => by
    rw [Value.keyTypes] at fixed
    rw [Value.mapKeyTypes, Attribute.mapKeyTypesAll_eq_self as fixed]
  | .bool _, _ | .number _, _ | .bytes _, _ | .text _, _ | .date _, _ | .mechanism _, _
  | .mechanisms _, _ => by rw [Value.mapKeyTypes]

/-- The same of what is known of a value. -/
theorem Reading.mapKeyTypes_eq_self : ∀ reading : Reading, (∀ k ∈ reading.keyTypes, f k = k) →
    reading.mapKeyTypes f = reading
  | .held value, fixed => by
    rw [Reading.keyTypes] at fixed
    rw [Reading.mapKeyTypes, Value.mapKeyTypes_eq_self value fixed]
  | .unknown, _ | .absent, _ | .sensitive, _ | .empty, _ => by rw [Reading.mapKeyTypes]

/-- The same of an attribute. -/
theorem Attribute.mapKeyTypes_eq_self : ∀ a : Attribute, (∀ k ∈ a.keyTypes, f k = k) →
    a.mapKeyTypes f = a
  | ⟨type, kind, reading⟩, fixed => by
    rw [Attribute.keyTypes] at fixed
    rw [Attribute.mapKeyTypes]
    split at fixed
    next h => rw [if_pos h, Reading.mapNumber_eq_self fixed]
    next h => rw [if_neg h, Reading.mapKeyTypes_eq_self reading fixed]

private theorem Attribute.mapKeyTypesAll_eq_self : ∀ as : List Attribute,
    (∀ k ∈ Attribute.keyTypesAll as, f k = k) → Attribute.mapKeyTypesAll f as = as
  | [], _ => by rw [Attribute.mapKeyTypesAll]
  | a :: as, fixed => by
    rw [Attribute.keyTypesAll] at fixed
    obtain ⟨hfirst, hrest⟩ := List.forall_mem_append.1 fixed
    rw [Attribute.mapKeyTypesAll, Attribute.mapKeyTypes_eq_self a hfirst,
      Attribute.mapKeyTypesAll_eq_self as hrest]

end

/-- Key types that are renumbered and renumbered back are as before. -/
theorem Attribute.mapKeyTypes_inverse (a : Attribute) (inverse : ∀ k ∈ a.keyTypes, g (f k) = k) :
    (a.mapKeyTypes f).mapKeyTypes g = a := by
  rw [mapKeyTypes_mapKeyTypes, mapKeyTypes_eq_self a inverse]

/-- A template whose key types stay the same stays the same. -/
theorem Template.mapKeyTypes_eq_self {t : Template} (fixed : ∀ k ∈ t.keyTypes, f k = k) :
    t.mapKeyTypes f = t := by
  obtain ⟨as⟩ := t
  rw [mapKeyTypes, Attribute.mapKeyTypesAll_eq_self as fixed]

/-! ## What stays as it is -/

/-- Key types are rewritten attribute by attribute. -/
theorem Attribute.mapKeyTypesAll_eq_map (f : Code → Code) (as : List Attribute) :
    Attribute.mapKeyTypesAll f as = as.map (Attribute.mapKeyTypes f) := by
  induction as with
  | nil => rw [mapKeyTypesAll, List.map_nil]
  | cons a as ih => rw [mapKeyTypesAll, ih, List.map_cons]

/-- Rewriting the key types of a template rewrites those of its attributes. -/
theorem Template.attributes_mapKeyTypes (f : Code → Code) (t : Template) :
    (t.mapKeyTypes f).attributes = t.attributes.map (Attribute.mapKeyTypes f) :=
  Attribute.mapKeyTypesAll_eq_map f t.attributes

/-- The key types of an attribute are among those of its list. -/
theorem Attribute.mem_keyTypesAll {a : Attribute} {as : List Attribute} {k : Code} (ha : a ∈ as)
    (hk : k ∈ a.keyTypes) : k ∈ Attribute.keyTypesAll as := by
  induction as with
  | nil => cases ha
  | cons b as ih =>
    rw [keyTypesAll, List.mem_append]
    rcases List.mem_cons.1 ha with rfl | hmem
    · exact .inl hk
    · exact .inr (ih hmem)

/-- Rewriting key types keeps the types of the attributes and their order. -/
@[simp]
theorem Template.types_mapKeyTypes (f : Code → Code) (t : Template) :
    (t.mapKeyTypes f).types = t.types := by
  rw [types, attributes_mapKeyTypes, List.map_map]
  exact List.map_congr_left fun a _ => a.type_mapKeyTypes f

/-- A number is no text. -/
private theorem Reading.texts_mapNumber (f : Code → Code) (reading : Reading) :
    (reading.mapNumber f).texts = reading.texts := by
  unfold mapNumber
  split
  next => simp [texts, Value.texts]
  next => rfl

mutual

/-- Rewriting key types keeps every text of a value. -/
theorem Value.texts_mapKeyTypes (f : Code → Code) : ∀ value : Value,
    (value.mapKeyTypes f).texts = value.texts
  | .template ⟨as⟩ => by
    rw [Value.mapKeyTypes, Value.texts, Value.texts, Attribute.textsAll_mapKeyTypesAll f as]
  | .bool _ | .number _ | .bytes _ | .text _ | .date _ | .mechanism _ | .mechanisms _ => by
    rw [Value.mapKeyTypes]

/-- The same of what is known of a value. -/
theorem Reading.texts_mapKeyTypes (f : Code → Code) : ∀ reading : Reading,
    (reading.mapKeyTypes f).texts = reading.texts
  | .held value => by
    rw [Reading.mapKeyTypes, Reading.texts, Reading.texts, Value.texts_mapKeyTypes f value]
  | .unknown | .absent | .sensitive | .empty => by rw [Reading.mapKeyTypes]

/-- The same of an attribute. -/
theorem Attribute.texts_mapKeyTypes (f : Code → Code) : ∀ a : Attribute,
    (a.mapKeyTypes f).texts = a.texts
  | ⟨type, kind, reading⟩ => by
    rw [Attribute.mapKeyTypes, Attribute.texts, Attribute.texts]
    split
    next => exact Reading.texts_mapNumber f reading
    next => exact Reading.texts_mapKeyTypes f reading

private theorem Attribute.textsAll_mapKeyTypesAll (f : Code → Code) : ∀ as : List Attribute,
    Attribute.textsAll (Attribute.mapKeyTypesAll f as) = Attribute.textsAll as
  | [] => by rw [Attribute.mapKeyTypesAll]
  | a :: as => by
    rw [Attribute.mapKeyTypesAll, Attribute.textsAll, Attribute.textsAll,
      Attribute.texts_mapKeyTypes f a, Attribute.textsAll_mapKeyTypesAll f as]

end

/-- Rewriting the key types of a template keeps its texts. -/
@[simp]
theorem Template.texts_mapKeyTypes (f : Code → Code) (t : Template) :
    (t.mapKeyTypes f).texts = t.texts :=
  Attribute.textsAll_mapKeyTypesAll f t.attributes

/-- The kind of a value does not depend on the key types in it. -/
theorem Value.kind_mapKeyTypes (f : Code → Code) (value : Value) :
    (value.mapKeyTypes f).kind = value.kind := by
  cases value with
  | template t =>
    obtain ⟨as⟩ := t
    rw [mapKeyTypes, kind, kind]
  | bool _ | number _ | bytes _ | text _ | date _ | mechanism _ | mechanisms _ => rw [mapKeyTypes]

/-- A renumbered attribute that holds a value holds one of the same kind. -/
theorem Attribute.exists_held_mapKeyTypes (f : Code → Code) (type : Code) (kind : Kind) (value : Value) :
    ∃ renumbered, (⟨type, kind, .held value⟩ : Attribute).mapKeyTypes f = ⟨type, kind, .held renumbered⟩ ∧
      renumbered.kind = value.kind ∧
      ∀ inner, renumbered = .template inner →
        value = .template inner ∨ ∃ t, value = .template t ∧ inner = t.mapKeyTypes f := by
  rw [mapKeyTypes]
  split
  next =>
    cases value with
    | number n => exact ⟨.number (f n), rfl, rfl, fun _ h => nomatch h⟩
    | bool _ | bytes _ | text _ | date _ | mechanism _ | mechanisms _ | template _ =>
      exact ⟨_, rfl, rfl, fun _ h => .inl h⟩
  next =>
    refine ⟨value.mapKeyTypes f, by rw [Reading.mapKeyTypes], value.kind_mapKeyTypes f, ?_⟩
    intro inner h
    cases value with
    | template t =>
      obtain ⟨as⟩ := t
      rw [Value.mapKeyTypes] at h
      cases h
      exact .inr ⟨⟨as⟩, rfl, rfl⟩
    | bool _ | number _ | bytes _ | text _ | date _ | mechanism _ | mechanisms _ =>
      rw [Value.mapKeyTypes] at h
      cases h

/-- An attribute without a value is not renumbered. -/
theorem Attribute.mapKeyTypes_of_value?_eq_none {a : Attribute} (none : a.reading.value? = none)
    (f : Code → Code) : a.mapKeyTypes f = a := by
  obtain ⟨type, kind, reading⟩ := a
  rw [mapKeyTypes]
  cases reading with
  | held value => cases none
  | unknown | absent | sensitive | empty => split <;> rfl

/-- A regular template stays regular when its key types are renumbered. -/
theorem Template.Regular.mapKeyTypes {t : Template} (regular : t.Regular) (f : Code → Code) :
    (t.mapKeyTypes f).Regular := by
  induction regular with
  | @mk t distinct holds nested ih =>
    have hmember : ∀ b ∈ (t.mapKeyTypes f).attributes, ∃ a ∈ t.attributes, ∃ value renumbered,
        a = ⟨a.type, value.kind, .held value⟩ ∧ AttributeType.kind? a.type = some value.kind ∧
        b = ⟨a.type, value.kind, .held renumbered⟩ ∧ renumbered.kind = value.kind ∧
        ∀ inner, renumbered = .template inner →
          value = .template inner ∨ ∃ u, value = .template u ∧ inner = u.mapKeyTypes f := by
      intro b hb
      rw [attributes_mapKeyTypes] at hb
      obtain ⟨a, ha, rfl⟩ := List.mem_map.1 hb
      obtain ⟨value, heq, known⟩ := holds a ha
      obtain ⟨renumbered, hb, hkind, hinner⟩ :=
        Attribute.exists_held_mapKeyTypes f a.type value.kind value
      exact ⟨a, ha, value, renumbered, heq, known, heq ▸ hb, hkind, hinner⟩
    refine .mk (by rwa [types_mapKeyTypes]) (fun b hb => ?_) (fun b hb inner hinner => ?_)
    · obtain ⟨a, -, value, renumbered, -, known, rfl, hkind, -⟩ := hmember b hb
      exact ⟨renumbered, by rw [hkind], by rw [hkind]; exact known⟩
    · obtain ⟨a, ha, value, renumbered, heq, -, rfl, -, htemplate⟩ := hmember b hb
      have hreading : a.reading = .held value := congrArg Attribute.reading heq
      obtain rfl | ⟨u, rfl, rfl⟩ := htemplate inner (Reading.held.inj hinner)
      · exact nested a ha inner hreading
      · exact ih a ha u hreading

end TokenClient
