import Mathlib.Data.List.Infix
import TokenClient.Text.LowerCase

/-!
# Lower case and what a text stands between

A text is lower-cased character by character, and of its surroundings only a capital sigma takes notice: it asks
whether a word comes before it and whether the word goes on after it. So the lower-case form of a part of a text is
that of the part between its neighbours (`lowerBetween`, `lower_append_append`), and of the neighbours it tells no more
than whether the nearest character that is not looked through is cased (`lowerBetween_congr`).

A text stands for itself whatever it is put between, unless one of its capital sigmas is at its edge
(`keepsSigmas_of_not_openSigma`, `KeepsSigmas.lower_infix`). If one is, there are neighbours that change it, and then
the lower-case form of the text is nowhere in that of the whole (`OpenSigma.exists_not_infix`): the whole has one sigma
of the needed form less than the text alone.
-/

namespace TokenClient.Text

variable {before before' after after' cs ds ds' left right : List Char}

/-! ## What a capital sigma sees -/

private theorem meetsCased_cons (c : Char) (cs : List Char) :
    meetsCased (c :: cs) = if isCaseIgnorable c then meetsCased cs else isCased c := by
  unfold meetsCased
  by_cases hc : isCaseIgnorable c = true
  · rw [List.dropWhile_cons_of_pos hc, if_pos hc]
  · rw [List.dropWhile_cons_of_neg hc, if_neg hc]

/-- Characters that are looked through show what is behind them, and any other one hides it. -/
theorem meetsCased_append (cs ds : List Char) :
    meetsCased (cs ++ ds) = if cs.all isCaseIgnorable then meetsCased ds else meetsCased cs := by
  induction cs with
  | nil => rfl
  | cons c cs ih =>
    rw [List.cons_append, meetsCased_cons, meetsCased_cons, ih, List.all_cons]
    by_cases hc : isCaseIgnorable c = true <;> simp [hc]

/-- What comes later counts only by whether it meets a cased letter. -/
private theorem meetsCased_append_congr (h : meetsCased ds = meetsCased ds') (cs : List Char) :
    meetsCased (cs ++ ds) = meetsCased (cs ++ ds') := by
  rw [meetsCased_append, meetsCased_append, h]

/-- A capital sigma hides what is behind it. -/
theorem meetsCased_sigma (cs ds : List Char) : meetsCased ('Σ' :: cs) = meetsCased ('Σ' :: ds) := by
  have hsigma : isCaseIgnorable 'Σ' = false := by decide +kernel
  rw [meetsCased_cons, meetsCased_cons, hsigma]
  rfl

/-- The two sides of a capital sigma decide its form, by what is seen on them. -/
theorem lowerSigma_congr (hbefore : meetsCased before = meetsCased before')
    (hafter : meetsCased after = meetsCased after') : lowerSigma before after = lowerSigma before' after' := by
  rw [lowerSigma, lowerSigma, hbefore, hafter]

/-! ## A part of a text -/

/-- The lower-case form of a text between what comes before it, nearest first, and what comes after it. -/
def lowerBetween (before after : List Char) : List Char → List Char
  | [] => []
  | c :: cs =>
    (if c = 'Σ' then [lowerSigma before (cs ++ after)] else lowerChar c) ++ lowerBetween (c :: before) after cs

/-- Lower-casing looks at what stands before, and here at what comes after as well. -/
private theorem lowerAfter_eq_lowerBetween (before cs : List Char) :
    lowerAfter before cs = lowerBetween before [] cs := by
  induction cs generalizing before with
  | nil => rfl
  | cons c cs ih => rw [lowerAfter, lowerBetween, ih, List.append_nil]

private theorem lower_eq_lowerBetween (cs : List Char) : lower cs = lowerBetween [] [] cs :=
  lowerAfter_eq_lowerBetween [] cs

private theorem lowerChar_ne_nil (c : Char) : lowerChar c ≠ [] := by
  fun_cases lowerChar c <;> exact List.cons_ne_nil _ _

/-- Something is left of a text that there is. -/
theorem lower_ne_nil (h : cs ≠ []) : lower cs ≠ [] := by
  obtain ⟨c, rest, rfl⟩ := List.exists_cons_of_ne_nil h
  rw [lower_eq_lowerBetween, lowerBetween]
  apply List.append_ne_nil_of_left_ne_nil
  split
  · exact List.cons_ne_nil _ _
  · exact lowerChar_ne_nil c

/-- Each of two parts of a text is lower-cased with the other one as a neighbour. -/
theorem lowerBetween_append (before after cs ds : List Char) :
    lowerBetween before after (cs ++ ds) =
      lowerBetween before (ds ++ after) cs ++ lowerBetween (cs.reverse ++ before) after ds := by
  induction cs generalizing before with
  | nil => rfl
  | cons c cs ih =>
    rw [List.cons_append, lowerBetween, lowerBetween, ih, List.append_assoc, List.append_assoc, List.reverse_cons,
      List.append_assoc, List.singleton_append]

/-- A capital sigma between the two parts of a text that it divides. -/
theorem lower_sigma (left right : List Char) :
    lower (left ++ 'Σ' :: right) =
      lowerBetween [] ('Σ' :: right) left ++
        lowerSigma left.reverse right :: lowerBetween ('Σ' :: left.reverse) [] right := by
  rw [lower_eq_lowerBetween, lowerBetween_append, lowerBetween, if_pos rfl]
  simp

/-- Of the neighbours counts no more than what is seen of them. -/
theorem lowerBetween_congr (hbefore : meetsCased before = meetsCased before')
    (hafter : meetsCased after = meetsCased after') (cs : List Char) :
    lowerBetween before after cs = lowerBetween before' after' cs := by
  induction cs generalizing before before' with
  | nil => rfl
  | cons c cs ih =>
    have hnext : meetsCased (c :: before) = meetsCased (c :: before') := meetsCased_append_congr hbefore [c]
    rw [lowerBetween, lowerBetween, ih hnext, lowerSigma_congr hbefore (meetsCased_append_congr hafter cs)]

/-- Without a capital sigma the neighbours do not count at all. -/
theorem lowerBetween_of_not_mem (h : 'Σ' ∉ cs) (before after : List Char) :
    lowerBetween before after cs = cs.flatMap lowerChar := by
  induction cs generalizing before with
  | nil => rfl
  | cons c cs ih =>
    rw [List.mem_cons, not_or] at h
    rw [lowerBetween, if_neg fun hc => h.1 hc.symm, ih h.2, List.flatMap_cons]

/-- A text is lower-cased alike between neighbours that give each of its capital sigmas the same form. -/
theorem lowerBetween_eq_of_forms
    (forms : ∀ left right, cs = left ++ 'Σ' :: right →
      lowerSigma (left.reverse ++ before) (right ++ after) = lowerSigma (left.reverse ++ before') (right ++ after')) :
    lowerBetween before after cs = lowerBetween before' after' cs := by
  induction cs generalizing before before' with
  | nil => rfl
  | cons c cs ih =>
    have hrest : lowerBetween (c :: before) after cs = lowerBetween (c :: before') after' cs := by
      apply ih
      intro left right hcs
      have hform := forms (c :: left) right (by rw [hcs, List.cons_append])
      simpa using hform
    rw [lowerBetween, lowerBetween, hrest]
    by_cases hc : c = 'Σ'
    · have hform := forms [] cs (by rw [hc]; rfl)
      rw [List.reverse_nil, List.nil_append, List.nil_append] at hform
      rw [if_pos hc, if_pos hc, hform]
    · rw [if_neg hc, if_neg hc]

/-- Between its neighbours each capital sigma of a text has the form that it has in the text alone. -/
def KeepsSigmas (before cs after : List Char) : Prop :=
  ∀ left right, cs = left ++ 'Σ' :: right →
    lowerSigma (left.reverse ++ before.reverse) (right ++ after) = lowerSigma left.reverse right

/-- The lower-case form of a text with a part of it set off. -/
theorem lower_append_append (before cs after : List Char) :
    lower (before ++ cs ++ after) =
      lowerBetween [] (cs ++ after) before ++ lowerBetween before.reverse after cs ++
        lowerBetween (cs.reverse ++ before.reverse) [] after := by
  rw [lower_eq_lowerBetween, lowerBetween_append, lowerBetween_append]
  simp

/-- A part of a text that keeps its sigmas is lower-cased in it as it is alone. -/
theorem KeepsSigmas.lowerBetween_eq (keeps : KeepsSigmas before cs after) :
    lowerBetween before.reverse after cs = lower cs := by
  rw [lower_eq_lowerBetween]
  apply lowerBetween_eq_of_forms
  intro left right hcs
  rw [keeps left right hcs, List.append_nil, List.append_nil]

/-- A part that keeps its sigmas is found again in the lower-cased text. -/
theorem KeepsSigmas.lower_infix (keeps : KeepsSigmas before cs after) :
    lower cs <:+: lower (before ++ cs ++ after) := by
  rw [lower_append_append, keeps.lowerBetween_eq]
  exact ⟨_, _, rfl⟩

/-! ## Sigmas at the edge -/

/-- A text has a capital sigma whose form is up to what the text is put between. On one of its sides there is nothing
but what is looked through, and what is seen on the other side does not settle its form. -/
def OpenSigma (cs : List Char) : Prop :=
  ∃ left right, cs = left ++ 'Σ' :: right ∧
    (left.all isCaseIgnorable = true ∧ meetsCased right = false ∨
      meetsCased left.reverse = true ∧ right.all isCaseIgnorable = true)

private theorem meetsCased_of_all (h : cs.all isCaseIgnorable = true) : meetsCased cs = false := by
  rw [← List.append_nil cs, meetsCased_append, if_pos h]
  rfl

private theorem not_mem_of_all (h : cs.all isCaseIgnorable = true) : 'Σ' ∉ cs := by
  intro hmem
  have hsigma : isCaseIgnorable 'Σ' = true := List.all_eq_true.1 h _ hmem
  revert hsigma
  decide +kernel

/-- Where no sigma is at the edge, each has its form whatever the neighbours are. -/
theorem keepsSigmas_of_not_openSigma (closed : ¬ OpenSigma cs) (before after : List Char) :
    KeepsSigmas before cs after := by
  intro left right hcs
  have hleft : ¬ (left.all isCaseIgnorable = true ∧ meetsCased right = false) := fun h =>
    closed ⟨left, right, hcs, .inl h⟩
  have hright : ¬ (meetsCased left.reverse = true ∧ right.all isCaseIgnorable = true) := fun h =>
    closed ⟨left, right, hcs, .inr h⟩
  rw [lowerSigma, lowerSigma, meetsCased_append, meetsCased_append, List.all_reverse]
  by_cases hall : left.all isCaseIgnorable = true
  · -- The word goes on behind the sigma, so that it is not final in any case.
    have hcased : meetsCased right = true := by simpa [hall] using hleft
    have hopen : ¬ right.all isCaseIgnorable = true := by
      intro h
      rw [meetsCased_of_all h] at hcased
      cases hcased
    rw [if_neg hopen, hcased, Bool.not_true, Bool.and_false, Bool.and_false]
  · rw [if_neg hall]
    cases hword : meetsCased left.reverse with
    | false => rfl
    | true =>
      rw [if_neg fun h => hright ⟨hword, h⟩]

/-- A list is not in another one that has it but for one element in its place. -/
theorem not_infix_of_replaced {α : Type} [DecidableEq α] {u v p q : List α} {a b : α} (hne : a ≠ b) (hu : a ∉ u)
    (hv : a ∉ v) : ¬ p ++ a :: q <:+: u ++ (p ++ b :: q) ++ v := by
  intro h
  have hcount := h.sublist.count_le a
  rw [List.count_append, List.count_append, List.count_append, List.count_append, List.count_cons_self,
    List.count_cons_of_ne (Ne.symm hne), List.count_eq_zero_of_not_mem hu, List.count_eq_zero_of_not_mem hv] at hcount
  omega

private theorem meetsCased_letter : meetsCased ['a'] = true := by decide +kernel

/-- Next to a word a sigma that opened the text is final. -/
theorem not_infix_of_word_before (hall : left.all isCaseIgnorable = true) (hright : meetsCased right = false) :
    ¬ lower (left ++ 'Σ' :: right) <:+: lower (['a'] ++ (left ++ 'Σ' :: right)) := by
  have halone : lowerSigma left.reverse right = 'σ' := by
    rw [lowerSigma, meetsCased_of_all (by rwa [List.all_reverse])]
    rfl
  have hnext : lowerSigma (['a'] ++ left).reverse right = 'ς' := by
    rw [lowerSigma, List.reverse_append, meetsCased_append, List.all_reverse, if_pos hall, List.reverse_singleton,
      meetsCased_letter, hright]
    rfl
  have hfirst : lowerBetween [] ('Σ' :: right) (['a'] ++ left) = ['a'] ++ lowerBetween [] ('Σ' :: right) left := by
    rw [lowerBetween_of_not_mem (not_mem_of_all hall), lowerBetween_of_not_mem, List.flatMap_append]
    · rfl
    · rw [List.mem_append, not_or]
      exact ⟨by decide, not_mem_of_all hall⟩
  have hlast : lowerBetween ('Σ' :: (['a'] ++ left).reverse) [] right =
      lowerBetween ('Σ' :: left.reverse) [] right :=
    lowerBetween_congr (meetsCased_sigma _ _) rfl right
  rw [← List.append_assoc, lower_sigma, lower_sigma, halone, hnext, hfirst, hlast, List.append_assoc,
    ← List.append_nil (['a'] ++ _)]
  exact not_infix_of_replaced (by decide) (by decide) (by decide)

/-- Where the word goes on a sigma that ended the text is not final. -/
theorem not_infix_of_word_after (hleft : meetsCased left.reverse = true) (hall : right.all isCaseIgnorable = true) :
    ¬ lower (left ++ 'Σ' :: right) <:+: lower (left ++ 'Σ' :: right ++ ['a']) := by
  have halone : lowerSigma left.reverse right = 'ς' := by
    rw [lowerSigma, hleft, meetsCased_of_all hall]
    rfl
  have hnext : lowerSigma left.reverse (right ++ ['a']) = 'σ' := by
    rw [lowerSigma, meetsCased_append, if_pos hall, meetsCased_letter, Bool.not_true, Bool.and_false]
    rfl
  have hfirst : lowerBetween [] ('Σ' :: (right ++ ['a'])) left = lowerBetween [] ('Σ' :: right) left :=
    lowerBetween_congr rfl (meetsCased_sigma _ _) left
  have hlast : lowerBetween ('Σ' :: left.reverse) [] (right ++ ['a']) =
      lowerBetween ('Σ' :: left.reverse) [] right ++ ['a'] := by
    rw [lowerBetween_of_not_mem (not_mem_of_all hall), lowerBetween_of_not_mem, List.flatMap_append]
    · rfl
    · rw [List.mem_append, not_or]
      exact ⟨not_mem_of_all hall, by decide⟩
  rw [List.append_assoc, List.cons_append, lower_sigma, lower_sigma, halone, hnext, hfirst, hlast,
    ← List.cons_append, ← List.append_assoc, ← List.nil_append (_ ++ _ ++ ['a']), ← List.append_assoc]
  exact not_infix_of_replaced (by decide) (by decide) (by decide)

/-- A sigma at the edge has another form next to a letter, and then the lower-case form of the text is not in that of
the whole. -/
theorem OpenSigma.exists_not_infix (h : OpenSigma cs) :
    ∃ before after, ¬ lower cs <:+: lower (before ++ cs ++ after) := by
  obtain ⟨left, right, rfl, ⟨hall, hright⟩ | ⟨hleft, hall⟩⟩ := h
  · refine ⟨['a'], [], ?_⟩
    rw [List.append_nil]
    exact not_infix_of_word_before hall hright
  · exact ⟨[], ['a'], not_infix_of_word_after hleft hall⟩

/-! ## ASCII -/

/-- The characters of the basic range. -/
def IsAscii (cs : List Char) : Prop := ∀ c ∈ cs, c.toNat < 0x80

/-- ASCII text is lower-cased character by character. -/
theorem lower_of_isAscii (ascii : IsAscii cs) : lower cs = cs.map Char.toLower := by
  have hsigma : 'Σ' ∉ cs := fun hmem => absurd (ascii _ hmem) (by decide)
  rw [lower_eq_lowerBetween, lowerBetween_of_not_mem hsigma]
  induction cs with
  | nil => rfl
  | cons c cs ih =>
    obtain ⟨hc, hcs⟩ := List.forall_mem_cons.1 ascii
    rw [List.flatMap_cons, ih hcs fun hmem => hsigma (List.mem_cons_of_mem _ hmem), lowerChar, if_pos hc]
    rfl

end TokenClient.Text
