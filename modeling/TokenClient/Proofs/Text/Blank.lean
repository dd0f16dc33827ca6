import Mathlib.Data.List.DropRight
import TokenClient.Text.Blank

/-!
# White space at the ends of a text

What is left when the white space at both ends is cut off has none there, so cutting it off again changes nothing
(`trim_trim`), and nothing is left of white space alone (`trim_eq_nil`). All of it is cut off around a text that has
none in it (`trim_append_append`), and nothing else is cut off (`exists_append_trim`).
-/

namespace TokenClient.Text

variable {cs : List Char}

/-- Trimming drops the blanks at both ends. -/
private theorem trim_eq_rdropWhile (cs : List Char) : trim cs = (cs.dropWhile isBlank).rdropWhile isBlank := rfl

/-- Trimming leaves a part of a text. -/
theorem mem_of_mem_trim {c : Char} (h : c ∈ trim cs) : c ∈ cs := by
  rw [trim_eq_rdropWhile] at h
  exact (List.dropWhile_sublist _).mem ((List.rdropWhile_prefix _ _).mem h)

/-- A text that has been trimmed starts with no white space. -/
theorem isBlank_of_trim_eq_cons {c : Char} {rest : List Char} (h : trim cs = c :: rest) : isBlank c = false := by
  obtain ⟨beyond, hwhole⟩ : c :: rest <+: cs.dropWhile isBlank := by
    rw [← h, trim_eq_rdropWhile]
    exact List.rdropWhile_prefix _ _
  have hhead := List.head?_dropWhile_not isBlank cs
  rwa [← hwhole] at hhead

/-- Trimming keeps what a text starts with if this is no white space. -/
theorem head?_trim {c : Char} (start : cs.head? = some c) (solid : isBlank c = false) : (trim cs).head? = some c := by
  obtain ⟨rest, rfl⟩ := List.head?_eq_some_iff.1 start
  have hstart : (c :: rest).dropWhile isBlank = c :: rest := List.dropWhile_cons_of_neg (by simp [solid])
  obtain ⟨beyond, hwhole⟩ := List.rdropWhile_prefix isBlank (l := c :: rest)
  rw [trim_eq_rdropWhile, hstart]
  cases h : (c :: rest).rdropWhile isBlank with
  | nil => simp [List.rdropWhile_eq_nil_iff.1 h c List.mem_cons_self] at solid
  | cons d left =>
    rw [h] at hwhole
    rw [List.head?_cons, (List.cons.inj hwhole).1]

/-- Trimmed once is trimmed for good. -/
theorem trim_trim (cs : List Char) : trim (trim cs) = trim cs := by
  have hstart : (trim cs).dropWhile isBlank = trim cs := by
    cases h : trim cs with
    | nil => rfl
    | cons c rest => rw [List.dropWhile_cons_of_neg (by rw [isBlank_of_trim_eq_cons h]; decide)]
  rw [trim_eq_rdropWhile (trim cs), hstart, trim_eq_rdropWhile, List.rdropWhile_idempotent]

/-- What trimming cuts off is white space. -/
theorem exists_append_trim (cs : List Char) :
    ∃ before after, before ++ trim cs ++ after = cs ∧ ∀ c ∈ before ++ after, isBlank c = true := by
  refine ⟨cs.takeWhile isBlank, (cs.dropWhile isBlank).rtakeWhile isBlank, ?_, ?_⟩
  · rw [trim_eq_rdropWhile, List.append_assoc, List.rdropWhile_append_rtakeWhile, List.takeWhile_append_dropWhile]
  · intro c hc
    rcases List.mem_append.1 hc with h | h
    · exact List.mem_takeWhile_imp h
    · exact List.mem_rtakeWhile_imp h

private theorem dropWhile_append_of_solid (filled : cs ≠ []) (solid : ∀ c ∈ cs, isBlank c = false) (more : List Char) :
    (cs ++ more).dropWhile isBlank = cs ++ more := by
  obtain ⟨c, rest, rfl⟩ := List.exists_cons_of_ne_nil filled
  rw [List.cons_append, List.dropWhile_cons_of_neg (by simp [solid c List.mem_cons_self])]

/-- All white space around a text that has none in it is cut off. -/
theorem trim_append_append {before after : List Char} (blank : ∀ c ∈ before ++ after, isBlank c = true)
    (filled : cs ≠ []) (solid : ∀ c ∈ cs, isBlank c = false) : trim (before ++ cs ++ after) = cs := by
  have hbefore : ∀ c ∈ before, isBlank c = true := fun c hc => blank c (List.mem_append_left _ hc)
  have hafter : ∀ c ∈ after.reverse, isBlank c = true := fun c hc =>
    blank c (List.mem_append_right _ (List.mem_reverse.1 hc))
  have hend : (cs.reverse ++ []).dropWhile isBlank = cs.reverse ++ [] :=
    dropWhile_append_of_solid (mt List.reverse_eq_nil_iff.1 filled) (fun c hc => solid c (List.mem_reverse.1 hc)) []
  rw [List.append_nil] at hend
  rw [trim, List.append_assoc, List.dropWhile_append_of_pos hbefore, dropWhile_append_of_solid filled solid,
    List.reverse_append, List.dropWhile_append_of_pos hafter, hend, List.reverse_reverse]

/-- Nothing is left of blanks. -/
theorem trim_eq_nil (blank : ∀ c ∈ cs, isBlank c = true) : trim cs = [] := by
  rw [trim_eq_rdropWhile, List.dropWhile_eq_nil_iff.2 blank]
  rfl

end TokenClient.Text
