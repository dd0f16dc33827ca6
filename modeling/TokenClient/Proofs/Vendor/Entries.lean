import TokenClient.Proofs.Vendor.CodePairs

/-!
# What becomes of the entries of a code map

Entries are added to a code map one after the other, and each drives out those before it that share a side with
it. So the pairs of a map are the entries that still stand (`CodeEntry.Stands`, `CodeMap.mem_pairs_iff_stands`),
and those of one kind are told by the entries of this kind alone (`CodeMap.pairs_ofEntries_filter`). Entries that
share no side from the outset are all kept (`CodeMap.mem_pairs_ofEntries`).

With what the look-ups make of such pairs, this is the algebra of a code map (`CodeMap.ofEntries_exact`): a code
that is only the other side of a pair does not come back, since nothing takes it there and the pair takes it away.
-/

namespace TokenClient

/-- An entry drives an earlier one out: it is another one of the same kind that shares a side with it. -/
def CodeEntry.DrivesOut (later earlier : CodeEntry) : Prop :=
  later.kind = earlier.kind ∧ (later.generic = earlier.generic ∨ later.vendor = earlier.vendor) ∧
    later ≠ earlier

/-- An entry stands among those that were added in order: it is one of them, and none that came later drives it
out. -/
def CodeEntry.Stands (entry : CodeEntry) (entries : List CodeEntry) : Prop :=
  ∃ before after, entries = before ++ entry :: after ∧ ∀ later ∈ after, ¬ later.DrivesOut entry

variable {entry last : CodeEntry} {entries : List CodeEntry} {kind : CodeKind}

private theorem CodeEntry.not_stands_nil (entry : CodeEntry) : ¬ entry.Stands [] := by
  rintro ⟨before, after, h, -⟩
  simp at h

/-- An entry stands after one more if it is this one, or if it stood before and is not driven out. -/
theorem CodeEntry.stands_concat :
    entry.Stands (entries ++ [last]) ↔ entry = last ∨ entry.Stands entries ∧ ¬ last.DrivesOut entry := by
  constructor
  · rintro ⟨before, after, heq, hafter⟩
    rcases List.eq_nil_or_concat after with rfl | ⟨init, final, rfl⟩
    · exact .inl (List.singleton_inj.1 (List.append_inj' heq rfl).2).symm
    · rw [List.concat_eq_append] at heq hafter
      rw [← List.cons_append, ← List.append_assoc] at heq
      obtain ⟨rfl, hlast⟩ := List.append_inj' heq rfl
      cases hlast
      refine .inr ⟨⟨before, init, rfl, fun later h => hafter later (List.mem_append_left _ h)⟩, ?_⟩
      exact hafter _ (List.mem_append_right _ (List.mem_singleton_self _))
  · rintro (rfl | ⟨⟨before, after, rfl, hafter⟩, hlast⟩)
    · exact ⟨entries, [], rfl, fun _ h => nomatch h⟩
    · refine ⟨before, after ++ [last], by simp, fun later h => ?_⟩
      rcases List.mem_append.1 h with h | h
      · exact hafter later h
      · rwa [List.mem_singleton.1 h]

/-- Where no two entries share a side, none is driven out. -/
theorem CodeEntry.stands_iff_mem (apart : entries.Pairwise CodeEntry.Apart) :
    entry.Stands entries ↔ entry ∈ entries := by
  constructor
  · rintro ⟨before, after, rfl, -⟩
    exact List.mem_append_right _ List.mem_cons_self
  · intro hmem
    obtain ⟨before, after, rfl⟩ := List.append_of_mem hmem
    refine ⟨before, after, rfl, fun later hlater drives => ?_⟩
    obtain ⟨hkind, shared, -⟩ := drives
    obtain ⟨-, hafter, -⟩ := List.pairwise_append.1 apart
    obtain ⟨hg, hv⟩ := (List.pairwise_cons.1 hafter).1 later hlater hkind.symm
    exact shared.elim (fun h => hg h.symm) fun h => hv h.symm

namespace CodeMap

/-- The pairs of a kind are the entries of this kind that stand. -/
theorem mem_pairs_iff_stands {generic vendor : Code} :
    (generic, vendor) ∈ (ofEntries entries).pairs kind ↔
      (⟨kind, generic, vendor⟩ : CodeEntry).Stands entries := by
  -- From the end of the list, since it is a later entry that drives an earlier one out.
  induction entries using List.reverseRecOn with
  | nil => simp [ofEntries, pairs_empty, CodeEntry.not_stands_nil]
  | append_singleton entries last ih =>
    obtain ⟨own, g, v⟩ := last
    rw [CodeEntry.stands_concat, ofEntries_concat, pairs_add, ← ih]
    by_cases hkind : own = kind
    · subst hkind
      rw [if_pos rfl, CodePairs.mem_insert]
      constructor
      · rintro (h | ⟨hmem, hg, hv⟩)
        · cases h
          exact .inl rfl
        · exact .inr ⟨hmem, fun drives => drives.2.1.elim (fun h => hg h.symm) fun h => hv h.symm⟩
      · rintro (h | ⟨hmem, stays⟩)
        · cases h
          exact .inl rfl
        · by_cases same : (generic, vendor) = (g, v)
          · exact .inl same
          · have other : (⟨own, g, v⟩ : CodeEntry) ≠ ⟨own, generic, vendor⟩ := by
              intro h
              cases h
              exact same rfl
            exact .inr ⟨hmem, fun hg => stays ⟨rfl, .inl hg.symm, other⟩,
              fun hv => stays ⟨rfl, .inr hv.symm, other⟩⟩
    · rw [if_neg hkind]
      constructor
      · exact fun hmem => .inr ⟨hmem, fun drives => hkind drives.1⟩
      · rintro (h | ⟨hmem, -⟩)
        · cases h
          exact absurd rfl hkind
        · exact hmem

/-- Entries that share no side are all kept. -/
theorem mem_pairs_ofEntries (apart : entries.Pairwise CodeEntry.Apart) {pair : Code × Code} :
    pair ∈ (ofEntries entries).pairs kind ↔
      ∃ entry ∈ entries, entry.kind = kind ∧ pair = (entry.generic, entry.vendor) := by
  obtain ⟨generic, vendor⟩ := pair
  rw [mem_pairs_iff_stands, CodeEntry.stands_iff_mem apart]
  constructor
  · exact fun hmem => ⟨_, hmem, rfl, rfl⟩
  · rintro ⟨entry, hmem, rfl, heq⟩
    cases heq
    exact hmem

/-- Entries of the other kind leave no trace in the pairs of a kind. -/
theorem pairs_ofEntries_filter (entries : List CodeEntry) (kind : CodeKind) :
    (ofEntries (entries.filter (·.kind = kind))).pairs kind = (ofEntries entries).pairs kind := by
  induction entries using List.reverseRecOn with
  | nil => rfl
  | append_singleton entries last ih =>
    rw [List.filter_append, ofEntries_concat, pairs_add]
    by_cases hkind : last.kind = kind
    · have kept : [last].filter (·.kind = kind) = [last] := by simp [hkind]
      rw [kept, ofEntries_concat, pairs_add, ih]
    · have dropped : [last].filter (·.kind = kind) = [] := by simp [hkind]
      rw [dropped, List.append_nil, if_neg hkind, ih]

/-- The algebra of a code map that comes about by adding entries. For each kind its pairs are one-to-one, they
are the entries that stand, and the other kind has no part in them. A code comes back from its counterpart
exactly if it has no vendor bit, or the side that it is looked up by is one of a pair with the bit on the other
side too, or no pair has it. -/
theorem ofEntries_exact (entries : List CodeEntry) (kind : CodeKind) :
    ((ofEntries entries).pairs kind).OneToOne ∧
      (∀ generic vendor, (generic, vendor) ∈ (ofEntries entries).pairs kind ↔
        (⟨kind, generic, vendor⟩ : CodeEntry).Stands entries) ∧
      (ofEntries (entries.filter (·.kind = kind))).pairs kind = (ofEntries entries).pairs kind ∧
      ∀ code,
        ((ofEntries entries).toGeneric kind ((ofEntries entries).toVendor kind code) = code ↔
          code.isVendor = false ∨
            (∃ vendor, (code, vendor) ∈ (ofEntries entries).pairs kind ∧ vendor.isVendor = true) ∨
              ((ofEntries entries).pairs kind).Lacks code) ∧
        ((ofEntries entries).toVendor kind ((ofEntries entries).toGeneric kind code) = code ↔
          code.isVendor = false ∨
            (∃ generic, (generic, code) ∈ (ofEntries entries).pairs kind ∧ generic.isVendor = true) ∨
              ((ofEntries entries).pairs kind).Lacks code) := by
  have oneToOne := oneToOne_ofEntries entries kind
  refine ⟨oneToOne, fun _ _ => mem_pairs_iff_stands, pairs_ofEntries_filter entries kind, fun code => ?_⟩
  rw [toVendor_eq, toGeneric_eq, toVendor_eq, toGeneric_eq]
  exact ⟨oneToOne.toGeneric_toVendor_iff, oneToOne.toVendor_toGeneric_iff⟩

/-- The second entry drives the first one out, and its vendor's side is the generic side of the third. A code that
is only a vendor's side does not come back. -/
example :
    let map := ofEntries [⟨.keyType, 0x80000001, 0x80000009⟩, ⟨.keyType, 0x80000001, 0x80000002⟩,
      ⟨.keyType, 0x80000002, 0x80000003⟩]
    map.keyTypeToGeneric (map.keyTypeToVendor 0x80000001) = 0x80000001 ∧
      map.keyTypeToGeneric (map.keyTypeToVendor 0x80000003) = 0x80000002 := by
  decide

end CodeMap

end TokenClient
