import Mathlib.Data.List.Forall2
import TokenClient.Proofs.Attribute.Collection
import TokenClient.Session.Reading

/-!
# Putting outcomes together

Reading the attributes of a list of types gives an outcome for each of them, an attribute or a failure.
What the outcomes come to can be told without the loop that adds them up (`Template.Collects`), and nothing
else meets this description (`Template.collects_iff`). Where the outcome depends on the type alone,
duplicates need no care: the template has the outcome of each type, or the first failure among them is the
result (`Template.assemble_map_eq_ok_iff`, `Template.assemble_map_eq_error_iff`).
-/

namespace TokenClient

/-- What outcomes, one for each of the types asked for, come to. If they are all attributes, it is the
template with the distinct types in the order in which they first come, and under each the attribute of
its last place. Otherwise it is the first failure. -/
inductive Template.Collects (types : List Code) (outcomes : List (Except Error Attribute)) :
    Except Error Template → Prop
  | attributes {attributes : List Attribute} {t : Template}
      (all : outcomes = attributes.map .ok)
      (asked : attributes.map Attribute.type = types)
      (order : t.types = types.eraseDups)
      (last : ∀ before a later, attributes = before ++ a :: later →
        (∀ b ∈ later, b.type ≠ a.type) → t.get? a.type = some a) :
      Collects types outcomes (.ok t)
  | failure {before : List Attribute} {e : Error} {later : List (Except Error Attribute)}
      (first : outcomes = before.map .ok ++ .error e :: later) :
      Collects types outcomes (.error e)

/-- An outcome is a failure, or an attribute of the type asked for. -/
def AnswersFor (type : Code) (outcome : Except Error Attribute) : Prop :=
  ∀ a, outcome = .ok a → a.type = type

/-- Results are all good, or there is a first failure among them. -/
theorem all_ok_or_first_error {α ε : Type} (results : List (Except ε α)) :
    (∃ values : List α, results = values.map .ok) ∨
      ∃ (before : List α) (e : ε) (later : List (Except ε α)),
        results = before.map .ok ++ .error e :: later := by
  induction results with
  | nil => exact .inl ⟨[], rfl⟩
  | cons result results ih =>
    cases result with
    | error e => exact .inr ⟨[], e, results, rfl⟩
    | ok value =>
      obtain ⟨values, rfl⟩ | ⟨before, e, later, rfl⟩ := ih
      · exact .inl ⟨value :: values, rfl⟩
      · exact .inr ⟨value :: before, e, later, rfl⟩

/-- Where each member of a list has a good result, the results are those of a list. -/
theorem exists_map_ok {α β ε : Type} {f : α → Except ε β} {as : List α}
    (all : ∀ a ∈ as, ∃ b, f a = .ok b) : ∃ bs : List β, as.map f = bs.map .ok := by
  induction as with
  | nil => exact ⟨[], rfl⟩
  | cons a as ih =>
    obtain ⟨b, hb⟩ := all a List.mem_cons_self
    obtain ⟨bs, hbs⟩ := ih fun a' hmem => all a' (List.mem_cons_of_mem _ hmem)
    exact ⟨b :: bs, by rw [List.map_cons, List.map_cons, hb, hbs]⟩

namespace Template

/-- One outcome more is collected last. -/
theorem assemble_concat (outcomes : List (Except Error Attribute)) (outcome : Except Error Attribute) :
    assemble (outcomes ++ [outcome]) =
      (assemble outcomes).bind fun t => outcome.map t.insert := by
  unfold assemble
  rw [List.foldlM_append]
  cases outcomes.foldlM (fun template outcome => outcome.map template.insert) empty with
  | error e => rfl
  | ok t =>
    show (outcome.map t.insert).bind pure = outcome.map t.insert
    cases outcome <;> rfl

private theorem assemble_map_ok (attributes : List Attribute) :
    assemble (attributes.map .ok) = .ok (ofAttributes attributes) := by
  induction attributes using List.reverseRecOn with
  | nil => rfl
  | append_singleton attributes a ih =>
    rw [List.map_append, List.map_cons, List.map_nil, assemble_concat, ih, ofAttributes_concat]
    rfl

/-- The first error is the result, whatever comes later. -/
private theorem assemble_first_error (before : List Attribute) (e : Error)
    (later : List (Except Error Attribute)) :
    assemble (before.map .ok ++ .error e :: later) = .error e := by
  induction later using List.reverseRecOn with
  | nil => rw [assemble_concat, assemble_map_ok]; rfl
  | append_singleton later outcome ih =>
    have hsplit : before.map .ok ++ Except.error e :: (later ++ [outcome]) =
        (before.map .ok ++ Except.error e :: later) ++ [outcome] := by simp
    rw [hsplit, assemble_concat, ih]
    rfl

/-- What is collected has distinct types. -/
theorem nodup_types_assemble {outcomes : List (Except Error Attribute)} {t : Template}
    (h : assemble outcomes = .ok t) : t.types.Nodup := by
  obtain ⟨attributes, rfl⟩ | ⟨before, e, later, rfl⟩ := all_ok_or_first_error outcomes
  · rw [assemble_map_ok] at h
    cases h
    exact nodup_types_ofAttributes attributes
  · rw [assemble_first_error] at h
    cases h

/-- Successful answers have the types asked for. -/
private theorem map_type_of_answersFor {types : List Code} {attributes : List Attribute}
    (answers : List.Forall₂ AnswersFor types (attributes.map .ok)) :
    attributes.map Attribute.type = types := by
  induction attributes generalizing types with
  | nil =>
    cases answers
    rfl
  | cons a attributes ih =>
    cases answers with
    | cons first rest => rw [List.map_cons, first a rfl, ih rest]

/-- The fold over the outcomes collects them as a reader of the specification would. -/
theorem collects_assemble {types : List Code} {outcomes : List (Except Error Attribute)}
    (answers : List.Forall₂ AnswersFor types outcomes) : Collects types outcomes (assemble outcomes) := by
  obtain ⟨attributes, rfl⟩ | ⟨before, e, later, rfl⟩ := all_ok_or_first_error outcomes
  · have htypes := map_type_of_answersFor answers
    rw [assemble_map_ok]
    refine .attributes rfl htypes ?_ ?_
    · rw [types_ofAttributes, htypes]
    · rintro before a later rfl last
      exact get?_ofAttributes last
  · rw [assemble_first_error]
    exact .failure rfl

/-- And nothing else does. -/
theorem Collects.eq_assemble {types : List Code} {outcomes : List (Except Error Attribute)}
    {result : Except Error Template} (collects : Collects types outcomes result) :
    result = assemble outcomes := by
  cases collects with
  | failure first => rw [first, assemble_first_error]
  | @attributes attributes t all asked order last =>
    rw [all, assemble_map_ok]
    have htypes : t.types = (ofAttributes attributes).types := by
      rw [order, types_ofAttributes, asked]
    have hnodup : t.types.Nodup := htypes ▸ nodup_types_ofAttributes attributes
    refine congrArg _ (eq_of_get? hnodup htypes fun type hmem => ?_)
    rw [order, List.mem_eraseDups, ← asked] at hmem
    obtain ⟨before, a, later, rfl, rfl, hlater⟩ := Attribute.exists_last_of_type hmem
    rw [last before a later rfl hlater, get?_ofAttributes hlater]

/-- The specification of collecting determines its result. -/
theorem collects_iff {types : List Code} {outcomes : List (Except Error Attribute)}
    {result : Except Error Template} (answers : List.Forall₂ AnswersFor types outcomes) :
    Collects types outcomes result ↔ result = assemble outcomes := by
  constructor
  · exact Collects.eq_assemble
  · rintro rfl
    exact collects_assemble answers

/-! ## One outcome for each type -/

variable {outcome : Code → Except Error Attribute} {types : List Code}

private theorem forall₂_answersFor (answers : ∀ type, AnswersFor type (outcome type)) (types : List Code) :
    List.Forall₂ AnswersFor types (types.map outcome) :=
  List.forall₂_map_right_iff.2 (List.forall₂_same.2 fun type _ => answers type)

/-- An attribute among the outcomes is the outcome of its own type. -/
theorem outcome_type_of_mem (answers : ∀ type, AnswersFor type (outcome type))
    {attributes : List Attribute} (all : types.map outcome = attributes.map .ok) {a : Attribute}
    (h : a ∈ attributes) : a.type ∈ types ∧ outcome a.type = .ok a := by
  have ha : .ok a ∈ types.map outcome := all ▸ List.mem_map_of_mem h
  obtain ⟨type, hmem, htype⟩ := List.mem_map.1 ha
  rw [answers type a htype]
  exact ⟨hmem, htype⟩

/-- One outcome for each type makes a template in which each type has its outcome. -/
theorem assemble_map_eq_ok_iff (answers : ∀ type, AnswersFor type (outcome type)) {t : Template} :
    assemble (types.map outcome) = .ok t ↔
      t.types = types.eraseDups ∧ ∀ type ∈ types, ∃ a, outcome type = .ok a ∧ t.get? type = some a := by
  rw [eq_comm, ← collects_iff (forall₂_answersFor answers types)]
  constructor
  · intro collects
    cases collects with
    | @attributes attributes _ all asked order last =>
      refine ⟨order, fun type hmem => ?_⟩
      obtain ⟨before, a, later, rfl, rfl, hlater⟩ := Attribute.exists_last_of_type (asked ▸ hmem)
      obtain ⟨-, ha⟩ := outcome_type_of_mem answers all (List.mem_append_right _ List.mem_cons_self)
      exact ⟨a, ha, last before a later rfl hlater⟩
  · rintro ⟨order, each⟩
    obtain ⟨attributes, all⟩ := exists_map_ok fun type hmem => (each type hmem).imp fun _ h => h.1
    have asked : attributes.map Attribute.type = types :=
      map_type_of_answersFor (all ▸ forall₂_answersFor answers types)
    refine .attributes all asked order ?_
    rintro before a later rfl -
    obtain ⟨hmem, ha⟩ := outcome_type_of_mem answers all (List.mem_append_right _ List.mem_cons_self)
    obtain ⟨b, hb, hget⟩ := each a.type hmem
    cases ha.symm.trans hb
    exact hget

/-- One outcome for each type fails with the first failure among them. -/
theorem assemble_map_eq_error_iff (answers : ∀ type, AnswersFor type (outcome type)) {e : Error} :
    assemble (types.map outcome) = .error e ↔
      ∃ before type later, types = before ++ type :: later ∧
        (∀ earlier ∈ before, ∃ a, outcome earlier = .ok a) ∧ outcome type = .error e := by
  rw [eq_comm, ← collects_iff (forall₂_answersFor answers types)]
  constructor
  · intro collects
    cases collects with
    | @failure good _ others first =>
      obtain ⟨before, rest, rfl, hbefore, hrest⟩ := List.map_eq_append_iff.1 first
      obtain ⟨type, later, rfl, htype, -⟩ := List.map_eq_cons_iff.1 hrest
      refine ⟨before, type, later, rfl, fun earlier hmem => ?_, htype⟩
      have hgood : outcome earlier ∈ good.map .ok := hbefore ▸ List.mem_map_of_mem hmem
      obtain ⟨a, -, ha⟩ := List.mem_map.1 hgood
      exact ⟨a, ha.symm⟩
  · rintro ⟨before, type, later, rfl, each, failed⟩
    obtain ⟨good, hgood⟩ := exists_map_ok each
    exact .failure (by rw [List.map_append, List.map_cons, hgood, failed])

end Template

end TokenClient
