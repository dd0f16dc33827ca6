import Mathlib.Data.List.Forall2
import TokenClient.Attribute.Codec

/-!
# How reads of attributes fail

What a module fills in may not be readable. All decoders then fail with the same error, the answer that an
attribute value is invalid, at whatever depth of a template the fault lies (`Attribute.ofWire_error`). An
accessor fails either because nothing is known of the attribute or because it holds a value of another
kind (`Attribute.read_error`).
-/

namespace TokenClient

variable {encoding : Encoding} {e : Error}

/-- Mapping a result changes no failure. -/
theorem map_error_iff {α β : Type} {f : α → β} {result : Except Error α} :
    result.map f = .error e ↔ result = .error e := by
  cases result <;> simp [Except.map]

/-- A mapped result succeeds iff the result does. -/
theorem map_ok_iff {α β : Type} {f : α → β} {result : Except Error α} {b : β} :
    result.map f = .ok b ↔ ∃ a, result = .ok a ∧ f a = b := by
  cases result <;> simp [Except.map]

/-- Two steps succeed iff the first does and then the second. -/
theorem bind_ok_iff {α β : Type} {result : Except Error α} {f : α → Except Error β} {b : β} :
    result >>= f = .ok b ↔ ∃ a, result = .ok a ∧ f a = .ok b := by
  cases result <;> simp [bind, Except.bind]

/-- A list is mapped to good results if each member is. -/
theorem mapM_eq_ok_iff {α β ε : Type} {f : α → Except ε β} {as : List α} {bs : List β} :
    as.mapM f = .ok bs ↔ List.Forall₂ (fun a b => f a = .ok b) as bs := by
  induction as generalizing bs with
  | nil =>
    rw [List.mapM_nil, List.forall₂_nil_left_iff]
    exact ⟨fun h => (Except.ok.inj h).symm, fun h => congrArg _ h.symm⟩
  | cons a as ih =>
    rw [List.mapM_cons, List.forall₂_cons_left_iff]
    constructor
    · intro h
      cases ha : f a with
      | error e =>
        rw [ha] at h
        cases h
      | ok b =>
        cases has : as.mapM f with
        | error e =>
          rw [ha, has] at h
          cases h
        | ok others =>
          rw [ha, has] at h
          exact ⟨b, others, rfl, ih.1 has, (Except.ok.inj h).symm⟩
    · rintro ⟨b, others, ha, has, rfl⟩
      rw [ha, ih.2 has]
      rfl

/-- What a list of steps gave, some step gave. -/
theorem exists_of_mem_mapM {α β ε : Type} {f : α → Except ε β} {as : List α} {bs : List β} {b : β}
    (h : as.mapM f = .ok bs) (hb : b ∈ bs) : ∃ a ∈ as, f a = .ok b := by
  have hall := mapM_eq_ok_iff.1 h
  clear h
  induction hall with
  | nil => cases hb
  | @cons a b' as bs hfirst _ ih =>
    rcases List.mem_cons.1 hb with rfl | hmem
    · exact ⟨a, List.mem_cons_self, hfirst⟩
    · obtain ⟨other, hother, hresult⟩ := ih hmem
      exact ⟨other, List.mem_cons_of_mem _ hother, hresult⟩

/-- A list of steps fails with the failure of one of them. -/
theorem mapM_error {α β : Type} {f : α → Except Error β} {as : List α} {e : Error}
    (h : as.mapM f = .error e) : ∃ a ∈ as, f a = .error e := by
  induction as with
  | nil => cases h
  | cons a as ih =>
    rw [List.mapM_cons] at h
    cases hfirst : f a with
    | error e' =>
      rw [hfirst] at h
      cases h
      exact ⟨a, List.mem_cons_self, hfirst⟩
    | ok b =>
      rw [hfirst] at h
      cases hrest : as.mapM f with
      | error e' =>
        simp only [hrest] at h
        cases h
        obtain ⟨other, hmem, hother⟩ := ih hrest
        exact ⟨other, List.mem_cons_of_mem _ hmem, hother⟩
      | ok bs =>
        simp only [hrest] at h
        cases h

/-- The one way reading a word fails. -/
theorem Word.ofBytes_error {bytes : Bytes} (h : Word.ofBytes bytes = .error e) :
    e = .token Rv.attributeValueInvalid := by
  unfold Word.ofBytes at h
  split at h <;> cases h
  rfl

/-- The one way reading a list of words fails. -/
theorem Word.arrayOfBytes_error {bytes : Bytes} (h : Word.arrayOfBytes bytes = .error e) :
    e = .token Rv.attributeValueInvalid := by
  unfold Word.arrayOfBytes at h
  split at h <;> cases h
  rfl

/-- The one way making a date fails. -/
theorem Date.make_error {year month day : Nat} (h : Date.make year month day = .error e) :
    e = .token Rv.attributeValueInvalid := by
  unfold Date.make at h
  split at h <;> cases h
  rfl

/-- The one way reading a date fails. -/
theorem Date.ofBytes_error {bytes : Bytes} (h : Date.ofBytes bytes = .error e) :
    e = .token Rv.attributeValueInvalid := by
  unfold Date.ofBytes at h
  split at h
  next => cases h
  next =>
    split at h
    next => exact Date.make_error (map_error_iff.1 h)
    next =>
      cases h
      rfl

/-- The one way reading the bytes of an attribute fails. -/
theorem Reading.ofBytes_error {kind : Kind} {bytes : Bytes}
    (h : Reading.ofBytes encoding kind bytes = .error e) : e = .token Rv.attributeValueInvalid := by
  cases kind with
  | bool | bytes | text => cases h
  | number | mechanism =>
    simp only [Reading.ofBytes] at h
    split at h
    next => cases h
    next => exact Word.ofBytes_error (map_error_iff.1 h)
  | date => exact Date.ofBytes_error (map_error_iff.1 h)
  | mechanisms => exact Word.arrayOfBytes_error (map_error_iff.1 h)
  | template =>
    simp only [Reading.ofBytes] at h
    split at h <;> cases h
    rfl

mutual

/-- The one way reading the wire value of an attribute fails. -/
theorem Reading.ofWire_error {kind : Kind} {value : WireValue}
    (h : Reading.ofWire encoding kind value = .error e) : e = .token Rv.attributeValueInvalid := by
  cases value with
  | null => simp [Reading.ofWire] at h
  | bytes b =>
    simp only [Reading.ofWire] at h
    exact Reading.ofBytes_error h
  | nested entries =>
    simp only [Reading.ofWire] at h
    split at h
    next => exact Template.ofWireOnto_error (map_error_iff.1 h)
    next =>
      cases h
      rfl

/-- The one way reading an attribute fails. -/
theorem Attribute.ofWire_error {entry : WireAttribute}
    (h : Attribute.ofWire encoding entry = .error e) : e = .token Rv.attributeValueInvalid := by
  obtain ⟨type, value⟩ := entry
  simp only [Attribute.ofWire] at h
  exact Reading.ofWire_error (map_error_iff.1 h)

/-- The one way reading a list of entries into a template fails. -/
theorem Template.ofWireOnto_error {t : Template} {entries : List WireAttribute}
    (h : Template.ofWireOnto encoding t entries = .error e) :
    e = .token Rv.attributeValueInvalid := by
  cases entries with
  | nil => simp [Template.ofWireOnto] at h
  | cons entry entries =>
    simp only [Template.ofWireOnto] at h
    split at h
    next hentry =>
      cases h
      exact Attribute.ofWire_error hentry
    next => exact Template.ofWireOnto_error h

end

/-- An accessor fails because nothing is known of the value, or because it is of another kind. -/
theorem Attribute.read_error {α : Type} {pick : Value → Option α} {a : Attribute}
    (h : a.read pick = .error e) :
    e = .stateUnknown a.name ∨ e = .token Rv.attributeTypeInvalid := by
  unfold Attribute.read Attribute.value at h
  cases hreading : a.reading with
  | unknown =>
    simp only [hreading] at h
    cases h
    exact .inl rfl
  | absent | sensitive | empty => simp [hreading, Reading.value?] at h
  | held v =>
    simp only [hreading, Reading.value?] at h
    split at h <;> cases h
    exact .inr rfl

end TokenClient
