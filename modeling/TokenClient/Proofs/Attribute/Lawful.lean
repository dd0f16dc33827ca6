import TokenClient.Attribute.Flagged
import TokenClient.Proofs.Attribute.Failure

/-!
# Flags that go together

The flags of an attribute and its value are stored apart, and only some combinations of them mean anything
(`Flagged.Attribute.Lawful`). A value is stored only in an attribute that is present, known and not kept back, and it
is of the attribute's kind.

What the rest of a client may rely on follows from this (`Flagged.Attribute.Lawful.consistent`). The accessor for the
kind of an attribute tells the value or that there is none, and fails only if nothing is known. Of an attribute that
is absent or kept back, nothing tells a value (`Flagged.Attribute.Withheld`).
-/

namespace TokenClient.Flagged.Attribute

/-- The flags of an attribute go together with each other and with the value, and this one with the kind. -/
structure Lawful (a : Attribute) : Prop where
  stored : ∀ value, a.stored = some value →
    a.isPresent = true ∧ a.isSensitive = false ∧ a.isKnown = true ∧ value.kind = a.kind
  sensitive : a.isSensitive = true → a.isPresent = true ∧ a.isKnown = true ∧ a.stored = none
  absent : a.isPresent = false → a.stored = none
  unknown : a.isKnown = false → a.isPresent = false ∧ a.stored = none

/-- What the accessor for the kind of an attribute finds, as a value. -/
def own (a : Attribute) : Except Error (Option Value) :=
  match a.kind with
  | .bool => a.bool?.map (·.map .bool)
  | .number => a.number?.map (·.map .number)
  | .bytes => a.bytes?.map (·.map .bytes)
  | .text => a.text?.map (·.map .text)
  | .date => a.date?.map (·.map .date)
  | .mechanism => a.number?.map (·.map .mechanism)
  | .mechanisms => a.mechanisms?.map (·.map .mechanisms)
  | .template => a.template?.map (·.map .template)

/-- The texts of attributes that tell no value. -/
def notices : List String :=
  ["<Value is not present or sensitive>", "<Attribute not present>", "<Value is sensitive>"]

/-- Neither an accessor of whatever kind nor the wire form nor the text of an attribute has a value in it. -/
structure Withheld (a : Attribute) : Prop where
  value : ∀ stored, a.value ≠ .ok (some stored)
  accessors : ∀ (α : Type) (pick : Value → Option α) (x : α), a.read pick ≠ .ok (some x)
  bigNat : ∀ n, a.bigNat? ≠ .ok (some n)
  wire : ∀ encoding, a.toWire encoding = ⟨a.type, .null⟩
  display : ∃ notice ∈ notices, a.display = a.name ++ ": " ++ notice

/-- The flags of an attribute go together, and what tells of it goes by them. -/
structure Consistent (a : Attribute) : Prop extends Lawful a where
  /-- The accessor for the kind tells the value, where one is known. -/
  own : a.own = a.value
  /-- That the attribute is of another kind is no answer of the accessors for its kind. -/
  own_rv : ∀ e, a.own = .error e ∨ a.kind = .bytes ∧ a.bigNat? = .error e → e.rv ≠ Rv.attributeTypeInvalid
  withheld : a.isSensitive = true ∨ a.isPresent = false → a.Withheld

variable {a : Attribute}

/-- The value is only not told if nothing is known. -/
theorem value_error {e : Error} (h : a.value = .error e) : e = .stateUnknown a.name := by
  unfold value at h
  split at h <;> cases h
  rfl

/-- Where no value is stored, every accessor finds none, or fails as there is nothing known. -/
theorem read_of_stored_eq_none {α : Type} (none : a.stored = none) (pick : Value → Option α) :
    a.read pick = a.value.map fun _ => Option.none := by
  obtain ⟨type, kind, stored, isPresent, isSensitive, isKnown⟩ := a
  subst none
  cases isKnown <;> rfl

private theorem value_ne_some_of_stored_eq_none (none : a.stored = none) (stored : Value) :
    a.value ≠ .ok (some stored) := by
  intro h
  unfold value at h
  rw [none] at h
  split at h <;> cases h

/-- The accessor for the kind finds the value, since the value is of this kind. -/
theorem Lawful.own_eq_value (lawful : a.Lawful) : a.own = a.value := by
  obtain ⟨type, kind, stored, isPresent, isSensitive, isKnown⟩ := a
  cases isKnown with
  | false => cases kind <;> rfl
  | true =>
    cases stored with
    | none => cases kind <;> rfl
    | some value =>
      obtain ⟨-, -, -, rfl⟩ := lawful.stored value rfl
      cases value <;> rfl

/-- The accessors for the kind fail only where nothing is known. -/
theorem Lawful.own_rv (lawful : a.Lawful) {e : Error}
    (h : a.own = .error e ∨ a.kind = .bytes ∧ a.bigNat? = .error e) : e.rv ≠ Rv.attributeTypeInvalid := by
  have fails : a.own = .error e := by
    rcases h with h | ⟨hkind, h⟩
    · exact h
    · rw [own, hkind]
      exact map_error_iff.2 (map_error_iff.1 h)
  rw [lawful.own_eq_value] at fails
  rw [value_error fails]
  show Rv.generalError ≠ Rv.attributeTypeInvalid
  decide

/-- What is absent or kept back stores no value, and so nothing tells one. -/
theorem Lawful.withheld (lawful : a.Lawful) (hidden : a.isSensitive = true ∨ a.isPresent = false) : a.Withheld := by
  have none : a.stored = none := hidden.elim (fun h => (lawful.sensitive h).2.2) lawful.absent
  have unseen : ∀ (α : Type) (pick : Value → Option α) (x : α), a.read pick ≠ .ok (some x) := by
    intro α pick x h
    rw [read_of_stored_eq_none none] at h
    obtain ⟨-, -, h⟩ := map_ok_iff.1 h
    cases h
  refine ⟨value_ne_some_of_stored_eq_none none, unseen, fun n h => ?_, fun encoding => ?_, ?_⟩
  · obtain ⟨found, hbytes, hfound⟩ := map_ok_iff.1 h
    obtain ⟨bytes, rfl, -⟩ := Option.map_eq_some_iff.1 hfound
    exact unseen _ _ bytes hbytes
  · obtain ⟨type, kind, stored, isPresent, isSensitive, isKnown⟩ := a
    subst none
    rfl
  · obtain ⟨type, kind, stored, isPresent, isSensitive, isKnown⟩ := a
    cases isKnown with
    | false => exact ⟨_, List.mem_cons_self, rfl⟩
    | true =>
      cases isPresent with
      | false => exact ⟨_, List.mem_cons_of_mem _ List.mem_cons_self, rfl⟩
      | true =>
        obtain rfl : isSensitive = true := by simpa using hidden
        exact ⟨_, List.mem_cons_of_mem _ (List.mem_cons_of_mem _ List.mem_cons_self), rfl⟩

/-- A lawful attribute is consistent: its accessors tell no more than what is stored. -/
theorem Lawful.consistent (lawful : a.Lawful) : a.Consistent where
  toLawful := lawful
  own := lawful.own_eq_value
  own_rv _ := lawful.own_rv
  withheld := lawful.withheld

end TokenClient.Flagged.Attribute
