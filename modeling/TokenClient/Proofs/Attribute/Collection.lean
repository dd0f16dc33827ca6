import Mathlib.Data.List.Basic
import Mathlib.Data.List.Induction
import TokenClient.Attribute.Codec

/-!
# Templates as collections

What a template holds is told by the order of its types and by the attribute under each type, and an
attribute that is added changes both in a plain way (`Template.types_insert`, `Template.get?_insert`). So a
template to which a list of attributes has been added one after the other has the distinct types in the
order in which they first came, and under each type the attribute that came last
(`Template.types_ofAttributes`, `Template.get?_ofAttributes`). Templates that are begun for types and those that are
read from the wire come about in this way (`Template.ofTypes_eq`, `Template.ofWire_eq`).
-/

namespace TokenClient

namespace Attribute

/-- An insertion keeps the place of a type that is there and puts a new one last. -/
private theorem map_type_insertInto (a : Attribute) (as : List Attribute) :
    (a.insertInto as).map Attribute.type =
      if a.type ∈ as.map Attribute.type then as.map Attribute.type
      else as.map Attribute.type ++ [a.type] := by
  induction as with
  | nil => simp [insertInto]
  | cons b as ih =>
    rw [insertInto]
    by_cases h : b.type = a.type
    · simp [h]
    · have h' : ¬ a.type = b.type := fun heq => h heq.symm
      rw [if_neg h, List.map_cons, ih]
      by_cases hmem : a.type ∈ as.map Attribute.type
      · simp [hmem]
      · rw [if_neg hmem, if_neg (by simpa [h'] using hmem)]
        simp

/-- After an insertion the inserted attribute is found under its type, and the others as before. -/
private theorem find?_insertInto (a : Attribute) (as : List Attribute) (type : Code) :
    (a.insertInto as).find? (·.type == type) =
      if a.type = type then some a else as.find? (·.type == type) := by
  induction as with
  | nil => by_cases h : a.type = type <;> simp [insertInto, h]
  | cons b as ih =>
    rw [insertInto]
    by_cases hb : b.type = a.type
    · rw [if_pos hb]
      by_cases ha : a.type = type <;> simp [ha, hb]
    · rw [if_neg hb]
      by_cases ht : b.type = type
      · have ha : ¬ a.type = type := fun heq => hb (ht.trans heq.symm)
        simp [ht, ha]
      · rw [List.find?_cons_of_neg (by simpa using ht), ih, List.find?_cons_of_neg (by simpa using ht)]

private theorem insertInto_of_not_mem {a : Attribute} {as : List Attribute}
    (h : a.type ∉ as.map Attribute.type) : a.insertInto as = as ++ [a] := by
  induction as with
  | nil => rfl
  | cons b as ih =>
    simp only [List.map_cons, List.mem_cons, not_or] at h
    rw [insertInto, if_neg fun heq => h.1 heq.symm, ih h.2]
    rfl

/-- Inserting brings in nothing but the attribute inserted. -/
theorem mem_insertInto {a b : Attribute} {as : List Attribute} (h : b ∈ a.insertInto as) :
    b = a ∨ b ∈ as := by
  induction as with
  | nil => exact .inl (List.mem_singleton.1 h)
  | cons c as ih =>
    rw [insertInto] at h
    split at h
    next => exact (List.mem_cons.1 h).imp_right (List.mem_cons_of_mem c)
    next =>
      rcases List.mem_cons.1 h with rfl | hmem
      · exact .inr List.mem_cons_self
      · exact (ih hmem).imp_right (List.mem_cons_of_mem c)

/-- The attributes of a list are written one by one. -/
theorem allToWire_eq_map (encoding : Encoding) (as : List Attribute) :
    Attribute.allToWire encoding as = as.map (Attribute.toWire encoding) := by
  induction as with
  | nil => rw [allToWire, List.map_nil]
  | cons a as ih => rw [allToWire, ih, List.map_cons]

/-- Writing an attribute keeps its type. -/
theorem type_toWire (encoding : Encoding) (a : Attribute) :
    (a.toWire encoding).type = a.type := by
  obtain ⟨type, kind, reading⟩ := a
  rw [toWire]

/-- An attribute among others of distinct types is found under its type. -/
theorem find?_type_of_mem {as : List Attribute} (nodup : (as.map Attribute.type).Nodup)
    {a : Attribute} (h : a ∈ as) : as.find? (·.type == a.type) = some a := by
  induction as with
  | nil => cases h
  | cons b as ih =>
    rw [List.map_cons, List.nodup_cons] at nodup
    rcases List.mem_cons.1 h with rfl | hmem
    · exact List.find?_cons_of_pos (by simp)
    · have hne : ¬ b.type = a.type := fun heq => nodup.1 (heq ▸ List.mem_map_of_mem hmem)
      rw [List.find?_cons_of_neg (by simpa using hne), ih nodup.2 hmem]

/-- Attributes of distinct types are found again under their types, in order. -/
theorem filterMap_find?_types {as : List Attribute} (nodup : (as.map Attribute.type).Nodup) :
    (as.map Attribute.type).filterMap (fun type => as.find? (·.type == type)) = as := by
  induction as with
  | nil => rfl
  | cons a as ih =>
    rw [List.map_cons, List.nodup_cons] at nodup
    have hfirst : (a :: as).find? (·.type == a.type) = some a := List.find?_cons_of_pos (by simp)
    rw [List.map_cons, List.filterMap_cons, hfirst]
    refine congrArg (a :: ·) ((List.filterMap_congr fun type hmem => ?_).trans (ih nodup.2))
    have hne : ¬ a.type = type := fun heq => nodup.1 (heq ▸ hmem)
    exact List.find?_cons_of_neg (by simpa using hne)

/-- A type that occurs among attributes has a last occurrence. -/
theorem exists_last_of_type {as : List Attribute} {type : Code} (h : type ∈ as.map Attribute.type) :
    ∃ before a later, as = before ++ a :: later ∧ a.type = type ∧ ∀ b ∈ later, b.type ≠ a.type := by
  induction as with
  | nil => cases h
  | cons a as ih =>
    by_cases hlater : type ∈ as.map Attribute.type
    · obtain ⟨before, b, later, rfl, htype, last⟩ := ih hlater
      exact ⟨a :: before, b, later, rfl, htype, last⟩
    · have htype : a.type = type := by
        rcases List.mem_cons.1 h with heq | hmem
        · exact heq.symm
        · exact absurd hmem hlater
      refine ⟨[], a, as, rfl, htype, fun b hb heq => hlater ?_⟩
      exact List.mem_map.2 ⟨b, hb, heq.trans htype⟩

end Attribute

namespace Template

/-- Writing a template keeps its types and their order. -/
theorem types_toWire (encoding : Encoding) (t : Template) :
    (t.toWire encoding).map WireAttribute.type = t.types := by
  rw [toWire, Attribute.allToWire_eq_map, List.map_map]
  exact List.map_congr_left fun a _ => a.type_toWire encoding

/-- An attribute of a new type comes last; the types are otherwise as before. -/
theorem types_insert (t : Template) (a : Attribute) :
    (t.insert a).types = if a.type ∈ t.types then t.types else t.types ++ [a.type] :=
  a.map_type_insertInto t.attributes

/-- The attribute that is added is the one of its type from then on. -/
@[simp]
theorem get?_insert (t : Template) (a : Attribute) (type : Code) :
    (t.insert a).get? type = if a.type = type then some a else t.get? type :=
  a.find?_insertInto t.attributes type

/-- A type is found iff some attribute has it. -/
theorem get?_eq_none_iff {t : Template} {type : Code} : t.get? type = none ↔ type ∉ t.types := by
  simp [get?, types]

/-- Each of the types of a template is found. -/
theorem exists_get?_of_mem_types {t : Template} {type : Code} (h : type ∈ t.types) : ∃ a, t.get? type = some a :=
  Option.ne_none_iff_exists'.1 fun hnone => get?_eq_none_iff.1 hnone h

/-- Where types are distinct, every attribute is found under its type. -/
theorem get?_eq_some_iff {t : Template} (nodup : t.types.Nodup) {type : Code} {a : Attribute} :
    t.get? type = some a ↔ a ∈ t.attributes ∧ a.type = type := by
  constructor
  · intro h
    exact ⟨List.mem_of_find?_eq_some h, by simpa using List.find?_some h⟩
  · rintro ⟨hmem, rfl⟩
    exact Attribute.find?_type_of_mem nodup hmem

/-- A template of distinct types is told by their order and by the attribute under each. -/
theorem eq_of_get? {t u : Template} (nodup : t.types.Nodup) (order : t.types = u.types)
    (agree : ∀ type ∈ t.types, t.get? type = u.get? type) : t = u := by
  have ht : t.types.filterMap t.get? = t.attributes := Attribute.filterMap_find?_types nodup
  have hu : u.types.filterMap u.get? = u.attributes :=
    Attribute.filterMap_find?_types (show u.types.Nodup from order ▸ nodup)
  have heq : t.types.filterMap t.get? = u.types.filterMap u.get? := by
    rw [← order]
    exact List.filterMap_congr agree
  cases t
  cases u
  exact congrArg mk (ht.symm.trans (heq.trans hu))

/-- An attribute that is added leaves the types distinct. -/
theorem nodup_types_insert {t : Template} (nodup : t.types.Nodup) (a : Attribute) :
    (t.insert a).types.Nodup := by
  rw [types_insert]
  split
  next => exact nodup
  next h =>
    rw [List.nodup_append]
    refine ⟨nodup, by simp, ?_⟩
    rintro type hmem _ hlast rfl
    rw [List.mem_singleton] at hlast
    exact h (hlast ▸ hmem)

/-- The template to which attributes have been added one after the other. -/
def ofAttributes (attributes : List Attribute) : Template := attributes.foldl insert empty

/-- Collecting one more attribute is one more insertion. -/
@[simp]
theorem ofAttributes_concat (attributes : List Attribute) (a : Attribute) :
    ofAttributes (attributes ++ [a]) = (ofAttributes attributes).insert a := by
  simp [ofAttributes]

private theorem eraseDups_concat (types : List Code) (type : Code) :
    (types ++ [type]).eraseDups =
      if type ∈ types then types.eraseDups else types.eraseDups ++ [type] := by
  rw [List.eraseDups_append]
  by_cases h : type ∈ types <;> simp [List.removeAll, h, List.eraseDups_cons]

/-- Collected attributes stand in the order in which their types first occur. -/
theorem types_ofAttributes (attributes : List Attribute) :
    (ofAttributes attributes).types = (attributes.map Attribute.type).eraseDups := by
  induction attributes using List.reverseRecOn with
  | nil => rfl
  | append_singleton attributes a ih =>
    rw [ofAttributes_concat, types_insert, ih, List.map_append]
    simp only [List.map_cons, List.map_nil, eraseDups_concat, List.mem_eraseDups]

/-- Collected attributes have distinct types, whatever the list repeats. -/
theorem nodup_types_ofAttributes (attributes : List Attribute) :
    (ofAttributes attributes).types.Nodup := by
  induction attributes using List.reverseRecOn with
  | nil => exact .nil
  | append_singleton attributes a ih =>
    rw [ofAttributes_concat]
    exact nodup_types_insert ih a

/-- Under a type there is the attribute of it that came last. -/
theorem get?_ofAttributes {before later : List Attribute} {a : Attribute}
    (last : ∀ b ∈ later, b.type ≠ a.type) :
    (ofAttributes (before ++ a :: later)).get? a.type = some a := by
  induction later using List.reverseRecOn with
  | nil => simp
  | append_singleton later b ih =>
    have hb : b.type ≠ a.type := last b (by simp)
    have hsplit : before ++ a :: (later ++ [b]) = (before ++ a :: later) ++ [b] := by simp
    rw [hsplit, ofAttributes_concat, get?_insert, if_neg hb]
    exact ih fun c hc => last c (List.mem_append_left _ hc)

/-- A template of attributes of distinct types is made by adding them. -/
theorem ofAttributes_attributes {t : Template} (nodup : t.types.Nodup) :
    ofAttributes t.attributes = t := by
  obtain ⟨attributes⟩ := t
  rw [types] at nodup
  induction attributes using List.reverseRecOn with
  | nil => rfl
  | append_singleton attributes a ih =>
    rw [List.map_append, List.nodup_append] at nodup
    obtain ⟨hfirst, -, hnew⟩ := nodup
    have h : a.type ∉ attributes.map Attribute.type := fun hmem =>
      hnew a.type hmem a.type (by simp) rfl
    rw [ofAttributes_concat, ih hfirst, insert, Attribute.insertInto_of_not_mem h]

/-- Attributes may be added as they are made, or after all are made. -/
theorem foldlM_insert {α : Type} (f : α → Except Error Attribute) (xs : List α) (t : Template) :
    xs.foldlM (fun t x => (f x).map t.insert) t = (xs.mapM f).map (·.foldl insert t) := by
  induction xs generalizing t with
  | nil => rfl
  | cons x xs ih =>
    rw [List.foldlM_cons, List.mapM_cons]
    cases f x with
    | error e => rfl
    | ok a =>
      show xs.foldlM (fun t x => (f x).map t.insert) (t.insert a) = _
      rw [ih]
      cases xs.mapM f <;> rfl

/-- A template of types makes an attribute for each and collects them. -/
theorem ofTypes_eq (types : List Code) :
    ofTypes types = (types.mapM Attribute.make).map ofAttributes :=
  foldlM_insert Attribute.make types empty

/-- A template is read by adding what its entries are read as. -/
theorem ofWire_eq_foldlM (encoding : Encoding) (entries : List WireAttribute) :
    ofWire encoding entries = entries.foldlM (fun t entry => (Attribute.ofWire encoding entry).map t.insert) empty := by
  rw [ofWire]
  generalize empty = t
  induction entries generalizing t with
  | nil =>
    rw [ofWireOnto]
    rfl
  | cons entry entries ih =>
    rw [ofWireOnto, List.foldlM_cons]
    cases Attribute.ofWire encoding entry with
    | error e => rfl
    | ok a => exact ih (t.insert a)

/-- A template from the wire reads each entry and collects what it read. -/
theorem ofWire_eq (encoding : Encoding) (entries : List WireAttribute) :
    ofWire encoding entries = (entries.mapM (Attribute.ofWire encoding)).map ofAttributes := by
  rw [ofWire_eq_foldlM]
  exact foldlM_insert (Attribute.ofWire encoding) entries empty

/-- A template from the wire has distinct types, whatever the entries repeat. -/
theorem nodup_types_ofWire {encoding : Encoding} {entries : List WireAttribute} {t : Template}
    (h : ofWire encoding entries = .ok t) : t.types.Nodup := by
  rw [ofWire_eq] at h
  cases hmapM : entries.mapM (Attribute.ofWire encoding) with
  | error e =>
    rw [hmapM] at h
    cases h
  | ok attributes =>
    rw [hmapM] at h
    cases h
    exact nodup_types_ofAttributes attributes

end Template

end TokenClient
