import TokenClient.Code

/-!
# Registries

Things under handles, in the order of the handles (`Registry.Sorted`). What is entered under a handle takes
the place of what was there.
-/

namespace TokenClient.SoftToken

/-- Things under handles. -/
abbrev Registry (α : Type) := List (Code × α)

namespace Registry

variable {α : Type}

/-- The thing under a handle. -/
def get? (registry : Registry α) (handle : Code) : Option α :=
  (registry.find? (·.1 == handle)).map (·.2)

/-- The registry with a thing under a handle. -/
def enter (handle : Code) (thing : α) : Registry α → Registry α
  | [] => [(handle, thing)]
  | entry :: registry =>
    if handle < entry.1 then (handle, thing) :: entry :: registry
    else if handle = entry.1 then (handle, thing) :: registry
    else entry :: enter handle thing registry

/-- The registry with the thing under a handle replaced, if there is one. -/
def replace (registry : Registry α) (handle : Code) (thing : α) : Registry α :=
  registry.map fun entry => if entry.1 == handle then (handle, thing) else entry

/-- The registry without what is under a handle. -/
def erase (registry : Registry α) (handle : Code) : Registry α :=
  registry.filter (·.1 != handle)

/-- The handles in order. -/
def handles (registry : Registry α) : List Code := registry.map (·.1)

/-- There is nothing in an empty registry. -/
@[simp]
theorem get?_nil (handle : Code) : get? ([] : Registry α) handle = none := rfl

/-- A handle is looked for in the first entry, and then in the others. -/
@[simp]
theorem get?_cons (entry : Code × α) (registry : Registry α) (handle : Code) :
    get? (entry :: registry) handle =
      if entry.1 = handle then some entry.2 else get? registry handle := by
  by_cases h : entry.1 = handle <;> simp [get?, h]

/-- What is entered is found under its handle, and the rest as before. -/
@[simp]
theorem get?_enter (registry : Registry α) (handle h : Code) (thing : α) :
    (registry.enter handle thing).get? h = if handle = h then some thing else registry.get? h := by
  induction registry with
  | nil => simp [enter]
  | cons entry registry ih =>
    unfold enter
    split
    next => simp
    next =>
      split
      next heq => by_cases h' : handle = h <;> simp [← heq, h']
      next hne =>
        by_cases he : entry.1 = h
        · have hother : ¬ handle = h := fun hh => hne (hh.trans he.symm)
          simp [he, hother]
        · simp [he, ih]

/-- A replacement is found under its handle if there was anything under it, and the rest as before. -/
@[simp]
theorem get?_replace (registry : Registry α) (handle h : Code) (thing : α) :
    (registry.replace handle thing).get? h =
      if handle = h then (registry.get? h).map fun _ => thing else registry.get? h := by
  induction registry with
  | nil => simp [replace]
  | cons entry registry ih =>
    have hcons : replace (entry :: registry) handle thing =
      (if entry.1 == handle then (handle, thing) else entry) :: replace registry handle thing := rfl
    by_cases he : entry.1 = handle <;> by_cases hh : handle = h <;> simp_all

/-- What is erased is not found any more, and the rest as before. -/
@[simp]
theorem get?_erase (registry : Registry α) (handle h : Code) :
    (registry.erase handle).get? h = if handle = h then none else registry.get? h := by
  induction registry with
  | nil => simp [erase]
  | cons entry registry ih =>
    have hcons : erase (entry :: registry) handle =
      if entry.1 != handle then entry :: erase registry handle else erase registry handle := by
        simp [erase, List.filter_cons]
    by_cases he : entry.1 = handle <;> by_cases hh : handle = h <;> simp_all

/-! ## The order of the handles -/

/-- The handles increase. -/
def Sorted (registry : Registry α) : Prop := registry.handles.Pairwise (· < ·)

/-- An empty registry is in order. -/
theorem sorted_nil : Sorted ([] : Registry α) := List.Pairwise.nil

private theorem mem_handles_enter {registry : Registry α} {handle h : Code} {thing : α}
    (hmem : h ∈ (registry.enter handle thing).handles) : h = handle ∨ h ∈ registry.handles := by
  induction registry with
  | nil => simpa [enter, handles] using hmem
  | cons entry registry ih =>
    unfold enter at hmem
    split at hmem
    next => exact List.mem_cons.1 hmem
    next =>
      split at hmem
      next =>
        exact (List.mem_cons.1 hmem).imp_right (List.mem_cons_of_mem _)
      next =>
        obtain rfl | hmem := List.mem_cons.1 hmem
        · exact .inr List.mem_cons_self
        · exact (ih hmem).imp_right (List.mem_cons_of_mem _)

/-- Entering keeps the handles in order. -/
theorem Sorted.enter {registry : Registry α} (sorted : registry.Sorted) (handle : Code) (thing : α) :
    (registry.enter handle thing).Sorted := by
  induction registry with
  | nil => exact List.pairwise_singleton ..
  | cons entry registry ih =>
    obtain ⟨hfirst, hrest⟩ := List.pairwise_cons.1 sorted
    unfold Registry.enter
    split
    next hlt =>
      refine List.pairwise_cons.2 ⟨List.forall_mem_cons.2 ⟨hlt, fun h hmem => ?_⟩, sorted⟩
      exact UInt64.lt_trans hlt (hfirst h hmem)
    next hle =>
      split
      next heq =>
        subst heq
        exact sorted
      next hne =>
        refine List.pairwise_cons.2 ⟨fun h hmem => ?_, ih hrest⟩
        obtain rfl | hmem := mem_handles_enter hmem
        · exact UInt64.lt_of_le_of_ne (UInt64.not_lt.1 hle) (Ne.symm hne)
        · exact hfirst h hmem

private theorem handles_replace (registry : Registry α) (handle : Code) (thing : α) :
    (registry.replace handle thing).handles = registry.handles := by
  unfold handles replace
  rw [List.map_map]
  refine List.map_congr_left fun entry _ => ?_
  by_cases h : entry.1 = handle <;> simp [h]

/-- Replacing keeps the handles in order. -/
theorem Sorted.replace {registry : Registry α} (sorted : registry.Sorted) (handle : Code) (thing : α) :
    (registry.replace handle thing).Sorted := by
  rw [Sorted, handles_replace]
  exact sorted

/-- What is left of a registry is in order. -/
theorem Sorted.filter {registry : Registry α} (sorted : registry.Sorted) (p : Code × α → Bool) :
    Sorted (registry.filter p) :=
  List.Pairwise.sublist (List.filter_sublist.map _) sorted

/-- Erasing keeps the handles in order. -/
theorem Sorted.erase {registry : Registry α} (sorted : registry.Sorted) (handle : Code) :
    (registry.erase handle).Sorted := sorted.filter _

/-- In a sorted registry nothing is under a handle twice. -/
theorem Sorted.get?_eq_some_iff {registry : Registry α} (sorted : registry.Sorted) {handle : Code}
    {thing : α} : registry.get? handle = some thing ↔ (handle, thing) ∈ registry := by
  induction registry with
  | nil => simp
  | cons entry registry ih =>
    obtain ⟨hfirst, hrest⟩ := List.pairwise_cons.1 sorted
    by_cases h : entry.1 = handle
    · subst h
      have hother : (entry.1, thing) ∉ registry := fun hmem =>
        UInt64.lt_irrefl _ (hfirst entry.1 (List.mem_map.2 ⟨_, hmem, rfl⟩))
      simp [hother, Prod.ext_iff, eq_comm]
    · have hne : (handle, thing) ≠ entry := fun heq => h (congrArg Prod.fst heq).symm
      simp [h, hne, ih hrest]

end Registry

end TokenClient.SoftToken
