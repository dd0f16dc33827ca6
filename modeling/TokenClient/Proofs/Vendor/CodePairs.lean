import Mathlib.Data.List.Induction
import TokenClient.Vendor.CodeMap

/-!
# The pairs of a code map

A code map grows pair by pair, and a new pair drives out those that share a side with it
(`CodePairs.mem_insert`). So no two pairs of a map share a side (`CodePairs.OneToOne`,
`CodeMap.oneToOne_ofEntries`), and a look-up by either side finds the one pair that has it.

Only codes with the vendor bit are looked up. A pair is therefore honoured in the direction that starts from
a side with the bit, and a side without it stands for itself (`CodePairs.OneToOne.toVendor_of_mem`,
`CodePairs.OneToOne.toGeneric_of_mem`). A code comes back from its counterpart if it is left alone in both
directions, or if a pair takes it there and the same pair takes it back: the other side then has the bit as well
(`CodePairs.OneToOne.toGeneric_toVendor_iff`). If both sides of all pairs have the bit, then the generic code of
a code of the module leads back to it, unless the pairs hide the code (`CodePairs.Hides`,
`CodePairs.OneToOne.toVendor_toGeneric`).
-/

namespace TokenClient

namespace CodePairs

variable {pairs : CodePairs} {generic vendor code : Code}

/-- No two pairs share a side. -/
def OneToOne (pairs : CodePairs) : Prop :=
  ∀ first ∈ pairs, ∀ second ∈ pairs, first.1 = second.1 ∨ first.2 = second.2 → first = second

/-- The pairs with their sides exchanged. -/
def flip (pairs : CodePairs) : CodePairs := pairs.map Prod.swap

/-- Flipping exchanges the sides of each pair. -/
private theorem mem_flip : (vendor, generic) ∈ pairs.flip ↔ (generic, vendor) ∈ pairs := by
  rw [flip, List.mem_map]
  constructor
  · rintro ⟨pair, hpair, heq⟩
    cases heq
    exact hpair
  · intro h
    exact ⟨(generic, vendor), h, rfl⟩

@[simp]
private theorem flip_flip (pairs : CodePairs) : pairs.flip.flip = pairs := by
  simp [flip]

/-- A look-up by the vendor's side is one by the generic side of the pairs turned round. -/
theorem toGeneric_eq_toVendor_flip (pairs : CodePairs) (code : Code) :
    pairs.toGeneric code = pairs.flip.toVendor code := by
  rw [toGeneric, toVendor, flip, List.find?_map, Option.map_map]
  rfl

/-- An insertion drops the pairs it contradicts and keeps the others. -/
theorem mem_insert {pair : Code × Code} :
    pair ∈ pairs.insert generic vendor ↔
      pair = (generic, vendor) ∨ pair ∈ pairs ∧ pair.1 ≠ generic ∧ pair.2 ≠ vendor := by
  rw [CodePairs.insert, List.mem_append, List.mem_filter, List.mem_singleton, or_comm]
  simp only [Bool.and_eq_true, bne_iff_ne]

private theorem oneToOne_nil : OneToOne [] := by
  intro first hfirst
  cases hfirst

private theorem OneToOne.flip (oneToOne : pairs.OneToOne) : pairs.flip.OneToOne := by
  rintro ⟨v, g⟩ hfirst ⟨v', g'⟩ hsecond shared
  have heq := oneToOne (g, v) (mem_flip.1 hfirst) (g', v') (mem_flip.1 hsecond) shared.symm
  cases heq
  rfl

/-- A new pair leaves no two pairs that share a side. -/
theorem OneToOne.insert (oneToOne : pairs.OneToOne) (generic vendor : Code) :
    (pairs.insert generic vendor).OneToOne := by
  intro first hfirst second hsecond shared
  rcases mem_insert.1 hfirst with rfl | ⟨hfirst, hg, hv⟩
  · rcases mem_insert.1 hsecond with rfl | ⟨-, hg, hv⟩
    · rfl
    · rcases shared with h | h
      · exact absurd h.symm hg
      · exact absurd h.symm hv
  · rcases mem_insert.1 hsecond with rfl | ⟨hsecond, -, -⟩
    · rcases shared with h | h
      · exact absurd h hg
      · exact absurd h hv
    · exact oneToOne first hfirst second hsecond shared

/-! ## Look-ups -/

/-- A code without the vendor bit stands for itself. -/
theorem toVendor_of_standard (pairs : CodePairs) (standard : code.isVendor = false) :
    pairs.toVendor code = code := by
  simp [toVendor, standard]

/-- A code that is no pair's generic side stands for itself. -/
theorem toVendor_of_not_mem (unpaired : ∀ pair ∈ pairs, pair.1 ≠ code) : pairs.toVendor code = code := by
  have hnone : pairs.find? (·.1 == code) = none := by
    apply List.find?_eq_none.2
    intro pair hpair
    simpa using unpaired pair hpair
  simp [toVendor, hnone]

/-- A code that no pair has on the vendor side is its own generic code. -/
theorem toGeneric_of_not_mem (unpaired : ∀ pair ∈ pairs, pair.2 ≠ code) : pairs.toGeneric code = code := by
  rw [toGeneric_eq_toVendor_flip]
  apply toVendor_of_not_mem
  rintro ⟨v, g⟩ hpair
  exact unpaired (g, v) (mem_flip.1 hpair)

/-- The generic side of a pair leads to the other one if it has the vendor bit. -/
theorem OneToOne.toVendor_of_mem (oneToOne : pairs.OneToOne) (hpair : (generic, vendor) ∈ pairs) :
    pairs.toVendor generic = if generic.isVendor then vendor else generic := by
  split
  next marked =>
    cases hfound : pairs.find? (·.1 == generic) with
    | none =>
      have hne := List.find?_eq_none.1 hfound _ hpair
      simp at hne
    | some pair =>
      have hside : pair.1 = generic := by simpa using List.find?_some hfound
      have heq : pair = (generic, vendor) :=
        oneToOne pair (List.mem_of_find?_eq_some hfound) _ hpair (.inl hside)
      simp [toVendor, marked, hfound, heq]
  next standard => exact toVendor_of_standard pairs (Bool.eq_false_iff.2 standard)

/-- The vendor side of a pair becomes the generic side if it has the vendor bit, and else it stays. -/
theorem OneToOne.toGeneric_of_mem (oneToOne : pairs.OneToOne) (hpair : (generic, vendor) ∈ pairs) :
    pairs.toGeneric vendor = if vendor.isVendor then generic else vendor := by
  rw [toGeneric_eq_toVendor_flip]
  exact oneToOne.flip.toVendor_of_mem (mem_flip.2 hpair)

/-! ## There and back -/

/-- No pair has a code on either side. -/
def Lacks (pairs : CodePairs) (code : Code) : Prop := ∀ pair ∈ pairs, pair.1 ≠ code ∧ pair.2 ≠ code

private theorem lacks_flip : pairs.flip.Lacks code ↔ pairs.Lacks code := by
  constructor
  · rintro lacks ⟨generic, vendor⟩ hpair
    exact (lacks (vendor, generic) (mem_flip.2 hpair)).symm
  · rintro lacks ⟨vendor, generic⟩ hpair
    exact (lacks (generic, vendor) (mem_flip.1 hpair)).symm

/-- A code that is looked up as a generic one and then as the vendor's comes back if it has no vendor bit, if it
is the generic side of a pair and the other side has the bit, or if no pair has it. -/
theorem OneToOne.toGeneric_toVendor_iff (oneToOne : pairs.OneToOne) :
    pairs.toGeneric (pairs.toVendor code) = code ↔
      code.isVendor = false ∨ (∃ vendor, (code, vendor) ∈ pairs ∧ vendor.isVendor = true) ∨
        pairs.Lacks code := by
  cases marked : code.isVendor with
  | false =>
    have unmarked : pairs.flip.toVendor code = code := toVendor_of_standard _ marked
    rw [toVendor_of_standard _ marked, toGeneric_eq_toVendor_flip, unmarked]
    simp
  | true =>
    -- A paired code has one partner only, so it comes back just if the partner is translated at all.
    by_cases paired : ∃ pair ∈ pairs, pair.1 = code
    · obtain ⟨⟨generic, vendor⟩, hpair, rfl⟩ := paired
      have hthere : pairs.toVendor generic = vendor := by rw [oneToOne.toVendor_of_mem hpair, if_pos marked]
      have sole : ∀ other, (generic, other) ∈ pairs → other = vendor := fun other hother =>
        congrArg Prod.snd (oneToOne _ hother _ hpair (.inl rfl))
      rw [hthere, oneToOne.toGeneric_of_mem hpair]
      constructor
      · intro hback
        refine .inr (.inl ⟨vendor, hpair, ?_⟩)
        by_contra unmarked
        rw [if_neg unmarked] at hback
        exact unmarked (hback ▸ marked)
      · rintro (h | ⟨other, hother, hmarked⟩ | lacks)
        · cases h
        · rw [← sole other hother, if_pos hmarked]
        · exact absurd rfl (lacks _ hpair).1
    · have unpaired : ∀ pair ∈ pairs, pair.1 ≠ code := fun pair hpair hside => paired ⟨pair, hpair, hside⟩
      rw [toVendor_of_not_mem unpaired]
      constructor
      · intro hback
        refine .inr (.inr fun pair hpair => ⟨unpaired pair hpair, fun hside => ?_⟩)
        subst hside
        rw [oneToOne.toGeneric_of_mem hpair, if_pos marked] at hback
        exact unpaired pair hpair hback
      · rintro (h | ⟨vendor, hpair, -⟩ | lacks)
        · cases h
        · exact absurd rfl (unpaired _ hpair)
        · exact toGeneric_of_not_mem fun pair hpair => (lacks pair hpair).2

/-- The same holds the other way round. -/
theorem OneToOne.toVendor_toGeneric_iff (oneToOne : pairs.OneToOne) :
    pairs.toVendor (pairs.toGeneric code) = code ↔
      code.isVendor = false ∨ (∃ generic, (generic, code) ∈ pairs ∧ generic.isVendor = true) ∨
        pairs.Lacks code := by
  have back : pairs.toVendor (pairs.toGeneric code) = pairs.flip.toGeneric (pairs.flip.toVendor code) := by
    rw [toGeneric_eq_toVendor_flip pairs.flip, toGeneric_eq_toVendor_flip pairs, flip_flip]
  rw [back, oneToOne.flip.toGeneric_toVendor_iff, lacks_flip]
  simp only [mem_flip]

/-- Both sides of all pairs have the vendor bit. -/
def Marked (pairs : CodePairs) : Prop := ∀ pair ∈ pairs, pair.1.isVendor = true ∧ pair.2.isVendor = true

private theorem marked_iff : pairs.Marked ↔ pairs.all (fun pair => pair.1.isVendor && pair.2.isVendor) = true := by
  simp only [Marked, List.all_eq_true, Bool.and_eq_true]

instance (pairs : CodePairs) : Decidable pairs.Marked := decidable_of_iff _ marked_iff.symm

/-- A pair uses a code as a generic one, and no pair as the vendor's. A module that means something else by
it cannot be asked for that. -/
def Hides (pairs : CodePairs) (code : Code) : Prop :=
  (∃ pair ∈ pairs, pair.1 = code) ∧ ¬ ∃ pair ∈ pairs, pair.2 = code

private theorem hides_iff : pairs.Hides code ↔ (pairs.any (·.1 == code) && !pairs.any (·.2 == code)) = true := by
  simp only [Hides, Bool.and_eq_true, Bool.not_eq_true', ← Bool.not_eq_true, List.any_eq_true, beq_iff_eq]

instance (pairs : CodePairs) (code : Code) : Decidable (pairs.Hides code) :=
  decidable_of_iff _ hides_iff.symm

end CodePairs

/-! ## Maps of both kinds -/

/-- The kinds of codes that a map translates. -/
inductive CodeKind where
  | keyType
  | mechanism
deriving DecidableEq, Repr

/-- A generic code and a vendor's code of a kind. -/
structure CodeEntry where
  kind : CodeKind
  generic : Code
  vendor : Code
deriving DecidableEq, Repr

/-- Two entries concern different kinds, or they share no side. -/
def CodeEntry.Apart (first second : CodeEntry) : Prop :=
  first.kind = second.kind → first.generic ≠ second.generic ∧ first.vendor ≠ second.vendor

instance (first second : CodeEntry) : Decidable (first.Apart second) :=
  inferInstanceAs (Decidable (_ → _ ∧ _))

namespace CodeMap

variable {map : CodeMap} {kind : CodeKind} {entry : CodeEntry} {entries : List CodeEntry}

/-- The pairs of a kind. -/
def pairs (map : CodeMap) : CodeKind → CodePairs
  | .keyType => map.keyTypes
  | .mechanism => map.mechanisms

/-- The vendor's code of a generic one, for a kind. -/
def toVendor (map : CodeMap) : CodeKind → Code → Code
  | .keyType => map.keyTypeToVendor
  | .mechanism => map.mechanismToVendor

/-- The generic code of a vendor's one, for a kind. -/
def toGeneric (map : CodeMap) : CodeKind → Code → Code
  | .keyType => map.keyTypeToGeneric
  | .mechanism => map.mechanismToGeneric

/-- The map with an entry. -/
def add (map : CodeMap) (entry : CodeEntry) : CodeMap :=
  match entry.kind with
  | .keyType => map.addKeyType entry.generic entry.vendor
  | .mechanism => map.addMechanism entry.generic entry.vendor

/-- The map that comes about from the empty one by adding entries in order. -/
def ofEntries (entries : List CodeEntry) : CodeMap := entries.foldl add .empty

/-- The map translates codes of a kind by the pairs of that kind. -/
theorem toVendor_eq (map : CodeMap) (kind : CodeKind) (code : Code) :
    map.toVendor kind code = (map.pairs kind).toVendor code := by
  cases kind <;> rfl

/-- And back by the same pairs. -/
theorem toGeneric_eq (map : CodeMap) (kind : CodeKind) (code : Code) :
    map.toGeneric kind code = (map.pairs kind).toGeneric code := by
  cases kind <;> rfl

/-- The empty map has no pairs. -/
theorem pairs_empty (kind : CodeKind) : CodeMap.empty.pairs kind = [] := by
  cases kind <;> rfl

/-- An entry is added to the pairs of its kind, and the other kind takes no notice. -/
theorem pairs_add (map : CodeMap) (entry : CodeEntry) (kind : CodeKind) :
    (map.add entry).pairs kind =
      if entry.kind = kind then (map.pairs kind).insert entry.generic entry.vendor else map.pairs kind := by
  obtain ⟨other, generic, vendor⟩ := entry
  cases other <;> cases kind <;> rfl

/-- One entry more is added last. -/
theorem ofEntries_concat (entries : List CodeEntry) (entry : CodeEntry) :
    ofEntries (entries ++ [entry]) = (ofEntries entries).add entry := by
  rw [ofEntries, List.foldl_append]
  rfl

/-- In every map that comes about the pairs of each kind are one-to-one. -/
theorem oneToOne_ofEntries (entries : List CodeEntry) (kind : CodeKind) :
    ((ofEntries entries).pairs kind).OneToOne := by
  induction entries using List.reverseRecOn with
  | nil =>
    rw [ofEntries, List.foldl_nil, pairs_empty]
    exact CodePairs.oneToOne_nil
  | append_singleton entries entry ih =>
    rw [ofEntries_concat, pairs_add]
    split
    next => exact ih.insert entry.generic entry.vendor
    next => exact ih

end CodeMap

end TokenClient
