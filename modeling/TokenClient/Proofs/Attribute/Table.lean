import Mathlib.Data.List.Pairwise
import TokenClient.Attribute.Type

/-!
# The table of attribute types

An attribute type is looked up by halving, so what is found is what is listed just as long as the entries are in
increasing order: then what does not lie to the one side of the middle lies to the other. The table is
(`AttributeType.increasing_table`), so every type that it lists is found, and nothing else is
(`AttributeType.find?_eq_some_iff`).
-/

namespace TokenClient.AttributeType

variable {entries : Array Entry} {type : Code} {entry : Entry} {fuel low high : Nat}

/-- Entries in increasing order of their types. -/
def Increasing (entries : Array Entry) : Prop := entries.toList.Pairwise (·.type < ·.type)

private theorem Increasing.lt (increasing : Increasing entries) {i j : Nat} (hij : i < j) (hj : j < entries.size) :
    entries[i].type < entries[j].type := by
  have h := List.pairwise_iff_getElem.1 increasing i j (Nat.lt_trans hij hj) hj hij
  rwa [Array.getElem_toList, Array.getElem_toList] at h

/-- In an increasing table the places are ordered as the types are. -/
private theorem Increasing.lt_iff (increasing : Increasing entries) {i j : Nat} (hi : i < entries.size)
    (hj : j < entries.size) : entries[i].type < entries[j].type ↔ i < j := by
  refine ⟨fun h => Nat.lt_of_not_le fun hji => ?_, fun hij => increasing.lt hij hj⟩
  obtain hji | rfl := Nat.lt_or_eq_of_le hji
  · exact UInt64.lt_irrefl _ (UInt64.lt_trans h (increasing.lt hji hi))
  · exact UInt64.lt_irrefl _ h

/-- The table is in ascending order of the types, which the search by halves relies on. -/
theorem increasing_table : Increasing table := by
  rw [Increasing, ← List.isChain_iff_pairwise]
  decide +kernel

/-- What a search finds is one of the entries, in whatever order they are. -/
theorem search_sound (h : search entries type fuel low high = some entry) :
    entry ∈ entries ∧ entry.type = type := by
  fun_induction search entries type fuel low high with
  | case1 | case2 | case6 => cases h
  | case3 _ _ _ _ middle found hfound htype =>
    cases h
    exact ⟨Array.mem_of_getElem? hfound, htype⟩
  | case4 _ _ _ _ _ _ _ _ _ ih | case5 _ _ _ _ _ _ _ _ _ ih => exact ih h

/-- A search finds every entry that lies in the stretch it looks at. -/
theorem search_complete (increasing : Increasing entries) {i : Nat} (hi : i < entries.size) (hlow : low ≤ i)
    (hhigh : i < high) (bound : high ≤ entries.size) (enough : high - low ≤ fuel) :
    search entries entries[i].type fuel low high = some entries[i] := by
  generalize htype : entries[i].type = type
  fun_induction search entries type fuel low high with
  | case1 | case6 => omega
  | case2 _ _ _ _ middle hnone =>
    rw [Array.getElem?_eq_none_iff] at hnone
    omega
  | case3 _ _ _ _ middle _ hfound heq =>
    obtain ⟨hmiddle, rfl⟩ := Array.getElem?_eq_some_iff.1 hfound
    have hnotLess : ¬ middle < i := by
      rw [← increasing.lt_iff hmiddle hi, heq, htype]
      exact UInt64.lt_irrefl _
    have hnotMore : ¬ i < middle := by
      rw [← increasing.lt_iff hi hmiddle, heq, htype]
      exact UInt64.lt_irrefl _
    obtain rfl : middle = i := by omega
    rfl
  | case4 _ _ _ _ middle _ hfound _ hless ih =>
    -- The middle is below what is searched, so this lies in the upper half.
    obtain ⟨hmiddle, rfl⟩ := Array.getElem?_eq_some_iff.1 hfound
    rw [← htype, increasing.lt_iff hmiddle hi] at hless
    exact ih hless hhigh bound (by omega)
  | case5 _ _ _ _ middle _ hfound hne hless ih =>
    obtain ⟨hmiddle, rfl⟩ := Array.getElem?_eq_some_iff.1 hfound
    rw [← htype, increasing.lt_iff hmiddle hi] at hless
    have hother : middle ≠ i := by
      rintro rfl
      exact hne htype
    exact ih hlow (by omega) (by omega) (by omega)

/-- A type is found by its entry in the table. -/
theorem find?_eq_some_iff : find? type = some entry ↔ entry ∈ table ∧ entry.type = type := by
  constructor
  · exact search_sound
  · rintro ⟨member, rfl⟩
    obtain ⟨i, hi, rfl⟩ := Array.mem_iff_getElem.1 member
    exact search_complete increasing_table hi (Nat.zero_le i) hi (Nat.le_refl _) (Nat.le_refl _)

/-- A type is not found iff no entry has it. -/
theorem find?_eq_none_iff : find? type = none ↔ ∀ entry ∈ table, entry.type ≠ type := by
  simp [Option.eq_none_iff_forall_ne_some, find?_eq_some_iff]

/-- A type is of the kind that the table lists for it. -/
theorem kind?_eq_some_iff {kind : Kind} :
    kind? type = some kind ↔ ∃ entry ∈ table, entry.type = type ∧ entry.kind = kind := by
  simp only [kind?, Option.map_eq_some_iff, find?_eq_some_iff, and_assoc]

/-- A type is of no known kind iff no entry has it. -/
theorem kind?_eq_none_iff : kind? type = none ↔ ∀ entry ∈ table, entry.type ≠ type := by
  rw [kind?, Option.map_eq_none_iff, find?_eq_none_iff]

end TokenClient.AttributeType
