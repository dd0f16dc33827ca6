import TokenClient.Proofs.Text.Blank
import TokenClient.Proofs.Text.LowerCase
import TokenClient.Vendor.Record

/-!
# Selectors of substrings

A selector names parts between colons, and it holds for a text if the lower-case form of a part is in the lower-case
form of the text (`anySubstring_iff`). The two are lower-cased apart from each other, so a capital sigma at the edge of
a part is taken for the end of a word though the word may go on in the text. A copy of a part is found where each sigma
keeps its form (`anySubstring_of_copy`): wherever the copy stands if no sigma is at the edge (`Text.OpenSigma`,
`anySubstring_of_infix`), and else not everywhere (`exists_missed_copy`). ASCII has no sigma, so there upper and lower
case make no difference, and nothing else is overlooked (`anySubstring_iff_of_isAscii`).
-/

namespace TokenClient.VendorRecord

variable {selector text : String} {part piece cs : List Char}

/-! ## Parts of a selector -/

/-- A part that a selector names: one of its pieces between colons without the white space at its ends, if there is
anything else in it. -/
def IsPart (selector : String) (part : List Char) : Prop :=
  part ≠ [] ∧ ∃ piece ∈ selector.toList.splitOn ':', Text.trim piece = part

private theorem pieces_eq_splitOn (cs : List Char) : pieces cs = cs.splitOn ':' := by
  induction cs with
  | nil => rfl
  | cons c cs ih =>
    rw [List.splitOn_cons_eq_if_modifyHead, ← ih]
    by_cases hc : c = ':'
    · rw [hc, pieces, if_pos (by decide)]
    · rw [if_neg (by simpa using hc), pieces]
      · cases hpieces : pieces cs with
        | nil => exact absurd (ih.symm.trans hpieces) (List.splitOn_ne_nil _ _)
        | cons piece more => rfl
      · exact hc

/-- A piece is made of characters of the text that is cut up, the colons left out. -/
theorem mem_of_mem_pieces {c : Char} (hpiece : piece ∈ pieces cs) (hc : c ∈ piece) : c ∈ cs ∧ c ≠ ':' := by
  fun_induction pieces cs generalizing piece with
  | case1 =>
    rw [List.mem_singleton.1 hpiece] at hc
    cases hc
  | case2 cs ih =>
    rcases List.mem_cons.1 hpiece with rfl | hmore
    · cases hc
    · exact (ih hmore hc).imp_left (List.mem_cons_of_mem _)
  | case3 d cs hd hnil ih =>
    obtain rfl := List.mem_singleton.1 hpiece
    obtain rfl := List.mem_singleton.1 hc
    exact ⟨List.mem_cons_self, hd⟩
  | case4 d cs hd first more hcs ih =>
    rw [hcs] at ih
    rcases List.mem_cons.1 hpiece with rfl | hmore
    · rcases List.mem_cons.1 hc with rfl | hrest
      · exact ⟨List.mem_cons_self, hd⟩
      · exact (ih List.mem_cons_self hrest).imp_left (List.mem_cons_of_mem _)
    · exact (ih (List.mem_cons_of_mem _ hmore) hc).imp_left (List.mem_cons_of_mem _)

private theorem occursIn_iff : occursIn part cs = true ↔ part <:+: cs := by
  induction cs with
  | nil => simp [occursIn]
  | cons c cs ih => rw [occursIn, Bool.or_eq_true, ih, List.isPrefixOf_iff_prefix, List.infix_cons_iff]

/-- A selector holds for a text if the lower-case form of one of its parts is in that of the text. -/
theorem anySubstring_iff :
    anySubstring selector text = true ↔ ∃ part, IsPart selector part ∧ Text.lower part <:+: Text.lower text.toList := by
  rw [anySubstring, List.any_map, List.any_eq_true, pieces_eq_splitOn]
  constructor
  · rintro ⟨piece, hpiece, h⟩
    rw [Function.comp_apply, Bool.and_eq_true, occursIn_iff, Bool.not_eq_true', List.isEmpty_eq_false_iff] at h
    refine ⟨Text.trim piece, ⟨fun hnil => h.1 ?_, piece, hpiece, rfl⟩, h.2⟩
    rw [hnil]
    rfl
  · rintro ⟨part, ⟨hne, piece, hpiece, rfl⟩, h⟩
    refine ⟨piece, hpiece, ?_⟩
    rw [Function.comp_apply, Bool.and_eq_true, occursIn_iff, Bool.not_eq_true', List.isEmpty_eq_false_iff]
    exact ⟨Text.lower_ne_nil hne, h⟩

/-- A part is a selector of its own, with itself as the only part. -/
theorem IsPart.isPart_iff (h : IsPart selector part) {other : List Char} :
    IsPart (String.ofList part) other ↔ other = part := by
  obtain ⟨hne, piece, hpiece, rfl⟩ := h
  have hcolon : ':' ∉ Text.trim piece := by
    intro hmem
    rw [← pieces_eq_splitOn] at hpiece
    exact (mem_of_mem_pieces hpiece (Text.mem_of_mem_trim hmem)).2 rfl
  rw [IsPart, String.toList_ofList, List.splitOn_eq_singleton hcolon]
  constructor
  · rintro ⟨-, piece', hpiece', rfl⟩
    rw [List.mem_singleton.1 hpiece', Text.trim_trim]
  · rintro rfl
    exact ⟨hne, _, List.mem_singleton_self _, Text.trim_trim piece⟩

/-! ## Copies of a part -/

/-- A copy of a part in a text is found where the part keeps its sigmas. -/
theorem anySubstring_of_copy {before after : List Char} (hpart : IsPart selector part)
    (hcopy : text.toList = before ++ part ++ after) (keeps : Text.KeepsSigmas before part after) :
    anySubstring selector text = true := by
  rw [anySubstring_iff, hcopy]
  exact ⟨part, hpart, keeps.lower_infix⟩

/-- A part without a sigma at its edge is found in every text that has a copy of it. -/
theorem anySubstring_of_infix (hpart : IsPart selector part) (hclosed : ¬ Text.OpenSigma part)
    (hcopy : part <:+: text.toList) : anySubstring selector text = true := by
  obtain ⟨before, after, hcopy⟩ := hcopy
  exact anySubstring_of_copy hpart hcopy.symm (Text.keepsSigmas_of_not_openSigma hclosed before after)

/-- A part with a sigma at its edge is not found in every text that has a copy of it. -/
theorem exists_missed_copy (hpart : IsPart selector part) (hopen : Text.OpenSigma part) :
    ∃ text : String, part <:+: text.toList ∧ anySubstring (String.ofList part) text = false := by
  obtain ⟨before, after, hnot⟩ := hopen.exists_not_infix
  refine ⟨String.ofList (before ++ part ++ after), ?_, ?_⟩
  · rw [String.toList_ofList]
    exact ⟨before, after, rfl⟩
  · rw [Bool.eq_false_iff, Ne, anySubstring_iff, String.toList_ofList]
    rintro ⟨other, hother, hlower⟩
    rw [hpart.isPart_iff.1 hother] at hlower
    exact hnot hlower

/-- In ASCII a selector holds for a text if a part of the text is one of the selector's, case aside. -/
theorem anySubstring_iff_of_isAscii (hselector : Text.IsAscii selector.toList) (htext : Text.IsAscii text.toList) :
    anySubstring selector text = true ↔
      ∃ part copy, IsPart selector part ∧ copy <:+: text.toList ∧ copy.map Char.toLower = part.map Char.toLower := by
  have hlower : ∀ part, IsPart selector part → Text.lower part = part.map Char.toLower := by
    rintro part ⟨-, piece, hpiece, rfl⟩
    apply Text.lower_of_isAscii
    intro c hc
    rw [← pieces_eq_splitOn] at hpiece
    exact hselector c (mem_of_mem_pieces hpiece (Text.mem_of_mem_trim hc)).1
  rw [anySubstring_iff, Text.lower_of_isAscii htext]
  constructor
  · rintro ⟨part, hpart, hinfix⟩
    rw [hlower part hpart, List.infix_map_iff] at hinfix
    obtain ⟨copy, hcopy, heq⟩ := hinfix
    exact ⟨part, copy, hpart, hcopy, heq.symm⟩
  · rintro ⟨part, copy, hpart, hcopy, heq⟩
    refine ⟨part, hpart, ?_⟩
    rw [hlower part hpart, ← heq]
    exact hcopy.map _

/-- A selector of white space and colons holds for no text. -/
theorem anySubstring_of_blank (blank : ∀ c ∈ selector.toList, Text.isBlank c = true ∨ c = ':') :
    anySubstring selector text = false := by
  rw [Bool.eq_false_iff, Ne, anySubstring_iff]
  rintro ⟨part, ⟨hne, piece, hpiece, rfl⟩, -⟩
  apply hne
  apply Text.trim_eq_nil
  intro c hc
  rw [← pieces_eq_splitOn] at hpiece
  obtain ⟨hmem, hcolon⟩ := mem_of_mem_pieces hpiece hc
  exact (blank c hmem).resolve_right hcolon

/-- A selector holds for a text that has a copy of one of its parts in it, as long as each capital sigma of the part
has the same form in the copy as in the part alone. That is so of every copy of a part without a sigma at its edge, and
of a part with one there is a text in which a copy of it is not found. Where there is nothing but ASCII a selector
holds just if a part of the text is one of its own, case aside. -/
theorem anySubstring_exact (selector : String) :
    (∀ (text : String) part before after, IsPart selector part → text.toList = before ++ part ++ after →
      Text.KeepsSigmas before part after → anySubstring selector text = true) ∧
    (∀ part, IsPart selector part →
      (¬ Text.OpenSigma part → ∀ text : String, part <:+: text.toList → anySubstring selector text = true) ∧
      (Text.OpenSigma part →
        ∃ text : String, part <:+: text.toList ∧ anySubstring (String.ofList part) text = false)) ∧
    (∀ text : String, Text.IsAscii selector.toList → Text.IsAscii text.toList →
      (anySubstring selector text = true ↔
        ∃ part copy, IsPart selector part ∧ copy <:+: text.toList ∧
          copy.map Char.toLower = part.map Char.toLower)) := by
  refine ⟨fun _ _ _ _ => anySubstring_of_copy, fun part hpart => ⟨?_, exists_missed_copy hpart⟩, ?_⟩
  · intro hclosed text hcopy
    exact anySubstring_of_infix hpart hclosed hcopy
  · intro text hselector htext
    exact anySubstring_iff_of_isAscii hselector htext

example : anySubstring "nothing: Luna " "SafeNet LUNA client" = true := by decide +kernel

/-- A part that ends in a capital sigma is not found where the word goes on. -/
theorem not_anySubstring_of_infix :
    ¬ ∀ (selector text : String) part, IsPart selector part → part <:+: text.toList →
      anySubstring selector text = true := by
  intro found
  have hpart : IsPart "ΑΣ" ['Α', 'Σ'] := ⟨by decide, ['Α', 'Σ'], by decide, by decide⟩
  have hfound := found "ΑΣ" "ΑΣΑ" ['Α', 'Σ'] hpart ⟨[], ['Α'], by decide⟩
  revert hfound
  decide +kernel

end TokenClient.VendorRecord
