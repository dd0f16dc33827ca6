import Mathlib.Data.List.Forall2
import TokenClient.Proofs.Attribute.Collection
import TokenClient.Proofs.Attribute.Failure
import TokenClient.Template.Edit

/-!
# Templates and the history of their edits

What edits come to can be told without a template, as a history of changes: which attribute was written, which type
was taken out, where a new template was begun. An edit that fails adds nothing to it (`Template.history`). The history
says which types there are, in the order of the places at which they came in (`Template.CameAt`), and which attribute
stands under a type, the one that was written last (`Template.Last`).

The main result (`Template.edited_recorded`) says that an edited template is just what its history says. The edits
are carried out in place, and come to what the operations on templates compute, or leave the template as they found it
if they fail (`Template.Edit.perform_eq`): the kind of an attribute is only written anew where the value is then of
this kind (`Attribute.assign_eq`).
-/

namespace TokenClient

/-! ## Edits in place -/

/-- A value is of its own kind already. -/
theorem Value.coerce_own_kind (value : Value) : value.coerce value.kind = .ok value := by
  cases value <;> rfl

/-- Where an attribute refuses a value, it would have kept its kind. -/
theorem Attribute.kindToStore_of_coerce_error {a : Attribute} {value : Value} {e : Error}
    (h : value.coerce (a.kindToStore value) = .error e) : a.kindToStore value = a.kind := by
  unfold kindToStore at h ⊢
  split
  next hnone hunknown =>
    simp only [hnone, hunknown, Value.coerce_own_kind] at h
    cases h
  next => rfl

/-- A value is written in place completely or not at all. -/
theorem Attribute.assign_eq (a : Attribute) (value : Value) :
    assign value a =
      match a.setValue value with
      | .ok b => (.ok (), b)
      | .error e => (.error e, a) := by
  obtain ⟨type, kind, reading⟩ := a
  rw [assign, Update.modify_bind, Update.get_bind, Update.lift_bind, setValue]
  cases h : value.coerce (kindToStore ⟨type, kind, reading⟩ value) with
  | ok stored => rfl
  | error e =>
    simp only [kindToStore_of_coerce_error h]
    rfl

namespace Template

/-- An attribute takes its own place. -/
theorem insert_of_get? {t : Template} {type : Code} {a : Attribute} (h : t.get? type = some a) :
    t.insert a = t := by
  obtain ⟨as⟩ := t
  have htype : a.type = type := by simpa using List.find?_some h
  subst htype
  rw [get?] at h
  refine congrArg mk ?_
  induction as with
  | nil => cases h
  | cons b as ih =>
    rw [Attribute.insertInto]
    split
    next heq =>
      rw [List.find?_cons_of_pos (by simpa using heq)] at h
      rw [Option.some.inj h]
    next hne =>
      rw [List.find?_cons_of_neg (by simpa using hne)] at h
      rw [ih h]

private theorem types_erase (t : Template) (type : Code) : (t.erase type).types = t.types.erase type := by
  rw [types, types, erase, List.erase_eq_eraseP, List.eraseP_map]
  refine congrArg (fun p => (t.attributes.eraseP p).map Attribute.type) (funext fun a => ?_)
  simp [Bool.beq_comm]

/-- Under other types there is what was there before. -/
theorem get?_erase {t : Template} (distinct : t.types.Nodup) (erased type : Code) :
    (t.erase erased).get? type = if erased = type then none else t.get? type := by
  split
  next h =>
    subst h
    rw [get?_eq_none_iff, types_erase]
    exact distinct.not_mem_erase
  next h =>
    obtain ⟨as⟩ := t
    rw [get?, get?, erase]
    clear distinct
    induction as with
    | nil => rfl
    | cons a as ih =>
      by_cases ha : a.type = erased
      · have hne : ¬ a.type = type := fun heq => h (ha.symm.trans heq)
        rw [List.eraseP_cons_of_pos (by simpa using ha), List.find?_cons_of_neg (by simpa using hne)]
      · rw [List.eraseP_cons_of_neg (by simpa using ha), List.find?_cons, List.find?_cons, ih]

/-! ## The history of a template -/

/-- What an edit did to the attributes of a template. -/
inductive Change where
  | wrote (a : Attribute)
  | erased (type : Code)
  /-- A new template was begun. -/
  | begun

/-- A change takes the attribute of a type out. -/
def Change.Removes (type : Code) : Change → Prop
  | .wrote _ => False
  | .erased out => out = type
  | .begun => True

/-- A change writes the attribute of a type. -/
def Change.Writes (type : Code) : Change → Prop
  | .wrote a => a.type = type
  | .erased _ => False
  | .begun => False

/-- An attribute was written at a point of which `P` holds, and `Q` holds of each change since. -/
def WroteSince (P : List Change → Attribute → Prop) (Q : Change → Prop) (changes : List Change) : Prop :=
  ∃ before a later, changes = before ++ .wrote a :: later ∧ P before a ∧ ∀ change ∈ later, Q change

/-- An attribute is the last one that was written under its type, and this was not taken out since. -/
def Last (a : Attribute) : List Change → Prop :=
  WroteSince (fun _ written => written = a) fun change => ¬ change.Writes a.type ∧ ¬ change.Removes a.type

/-- A type was written and not taken out since. -/
def Stays (type : Code) : List Change → Prop :=
  WroteSince (fun _ written => written.type = type) fun change => ¬ change.Removes type

/-- A type came in at a place of the history: it was written there when it was not there, and not taken out since. -/
def CameAt (type : Code) (place : Nat) : List Change → Prop :=
  WroteSince (fun before written => written.type = type ∧ before.length = place ∧ ¬ Stays type before)
    fun change => ¬ change.Removes type

/-- The attribute under a type after a change, given the one before. -/
def Change.found (type : Code) (before : Option Attribute) : Change → Option Attribute
  | .wrote a => if a.type = type then some a else before
  | .erased out => if out = type then none else before
  | .begun => none

/-- The attribute under a type, so far as changes tell. -/
def last? (changes : List Change) (type : Code) : Option Attribute :=
  changes.foldl (Change.found type) none

/-- What an edit changes after other changes, or why it fails. -/
def Edit.changes (earlier : List Change) : Edit → Except Error (List Change)
  | .set type value => (Attribute.withValue type value).map fun a => [.wrote a]
  | .insert a => .ok [.wrote a]
  | .ofTypes types => (types.mapM Attribute.make).map fun as => .begun :: as.map .wrote
  | .ofWire encoding entries =>
    (entries.mapM (Attribute.ofWire encoding)).map fun as => .begun :: as.map .wrote
  | .erase type => .ok [.erased type]
  | .setValue type value =>
    match last? earlier type with
    | some a => (a.setValue value).map fun b => [.wrote b]
    | none => .ok []

/-- The changes of edits that are made one after the other. Those that fail change nothing. -/
def history (edits : List Edit) : List Change :=
  edits.foldl (fun earlier edit => earlier ++ (edit.changes earlier).toOption.getD []) []

/-- A template is what changes say. -/
structure Recorded (changes : List Change) (t : Template) : Prop where
  distinct : t.types.Nodup
  stays : ∀ type, type ∈ t.types ↔ Stays type changes
  /-- Each type has one place at which it came in, -/
  place : ∀ type ∈ t.types, ∃! place, CameAt type place changes
  /-- and the types are in the order of these places. -/
  order : t.types.Pairwise fun type other =>
    ∀ place otherPlace, CameAt type place changes → CameAt other otherPlace changes → place < otherPlace
  /-- Under a type there is the attribute that was written last, -/
  last : ∀ type a, t.get? type = some a ↔ a.type = type ∧ Last a changes
  /-- and none if the type was never written or was taken out after it was written. -/
  none : ∀ type, t.get? type = none ↔ ¬ Stays type changes
  /-- On the wire there is one entry for each type, in order: the wire form of the attribute under it. -/
  wire : ∀ encoding, List.Forall₂ (fun type (entry : WireAttribute) =>
    entry.type = type ∧ ∃ a, t.get? type = some a ∧ entry = a.toWire encoding) t.types (t.toWire encoding)

variable {P : List Change → Attribute → Prop} {Q : Change → Prop} {changes : List Change} {change : Change}
  {type : Code} {a : Attribute}

private theorem not_wroteSince_nil : ¬ WroteSince P Q [] := by
  rintro ⟨before, a, later, h, -⟩
  simp at h

/-- What was written since one more change was written by it, or before it and the change was as it should be. -/
theorem wroteSince_concat :
    WroteSince P Q (changes ++ [change]) ↔
      (∃ a, change = .wrote a ∧ P changes a) ∨ WroteSince P Q changes ∧ Q change := by
  constructor
  · rintro ⟨before, a, later, heq, here, since⟩
    rcases List.eq_nil_or_concat later with rfl | ⟨init, final, rfl⟩
    · obtain ⟨rfl, hlast⟩ := List.append_inj' heq rfl
      exact .inl ⟨a, List.singleton_inj.1 hlast, here⟩
    · rw [List.concat_eq_append] at heq since
      rw [← List.cons_append, ← List.append_assoc] at heq
      obtain ⟨rfl, hlast⟩ := List.append_inj' heq rfl
      cases hlast
      refine .inr ⟨⟨before, a, init, rfl, here, fun c hc => since c (List.mem_append_left _ hc)⟩, ?_⟩
      exact since _ (List.mem_append_right _ (List.mem_singleton_self _))
  · rintro (⟨a, rfl, here⟩ | ⟨⟨before, a, later, rfl, here, since⟩, hlast⟩)
    · exact ⟨changes, a, [], rfl, here, fun _ h => nomatch h⟩
    · refine ⟨before, a, later ++ [change], by simp, here, fun c hc => ?_⟩
      rcases List.mem_append.1 hc with hc | hc
      · exact since c hc
      · rwa [List.mem_singleton.1 hc]

/-- A type stays after one change more iff the change writes it, or it stayed before and was not removed. -/
private theorem stays_concat :
    Stays type (changes ++ [change]) ↔ change.Writes type ∨ Stays type changes ∧ ¬ change.Removes type := by
  unfold Stays
  rw [wroteSince_concat]
  refine or_congr_left ?_
  cases change <;> simp [Change.Writes]

/-- The place at which a type came is that of the first write since it was last removed. -/
private theorem cameAt_concat {place : Nat} :
    CameAt type place (changes ++ [change]) ↔
      (change.Writes type ∧ changes.length = place ∧ ¬ Stays type changes) ∨
        CameAt type place changes ∧ ¬ change.Removes type := by
  unfold CameAt
  rw [wroteSince_concat]
  refine or_congr_left ?_
  cases change <;> simp [Change.Writes]

/-- What was written last after one change more. -/
private theorem last_concat :
    Last a (changes ++ [change]) ↔
      change = .wrote a ∨ Last a changes ∧ ¬ change.Writes a.type ∧ ¬ change.Removes a.type := by
  unfold Last
  rw [wroteSince_concat]
  refine or_congr_left ?_
  simp

/-! ## Replaying a history -/

/-- The template after a change. -/
def Change.apply (t : Template) : Change → Template
  | .wrote a => t.insert a
  | .erased type => t.erase type
  | .begun => .empty

/-- The template after changes, one after the other. -/
def replay (changes : List Change) : Template := changes.foldl Change.apply .empty

private theorem replay_concat (changes : List Change) (change : Change) :
    replay (changes ++ [change]) = change.apply (replay changes) := by
  rw [replay, List.foldl_append]
  rfl

/-- No history of changes leaves a type twice. -/
theorem nodup_types_replay (changes : List Change) : (replay changes).types.Nodup := by
  induction changes using List.reverseRecOn with
  | nil => exact .nil
  | append_singleton changes change ih =>
    rw [replay_concat]
    cases change with
    | wrote a => exact nodup_types_insert ih a
    | erased type =>
      rw [Change.apply, types_erase]
      exact ih.erase type
    | begun => exact .nil

/-- Every attribute was written at some point. -/
theorem wrote_mem_of_mem_replay (h : a ∈ (replay changes).attributes) : .wrote a ∈ changes := by
  induction changes using List.reverseRecOn with
  | nil => cases h
  | append_singleton changes change ih =>
    rw [replay_concat] at h
    rw [List.mem_append]
    cases change with
    | wrote b =>
      rcases Attribute.mem_insertInto h with rfl | hmem
      · exact .inr (List.mem_singleton_self _)
      · exact .inl (ih hmem)
    | erased type => exact .inl (ih (List.mem_of_mem_eraseP h))
    | begun => cases h

/-- Only the last change decides whether what was there before counts. -/
private theorem last?_concat (changes : List Change) (change : Change) (type : Code) :
    last? (changes ++ [change]) type = change.found type (last? changes type) := by
  rw [last?, List.foldl_append]
  rfl

/-- What a template holds of a type is what its history wrote last. -/
theorem get?_replay (changes : List Change) (type : Code) :
    (replay changes).get? type = last? changes type := by
  induction changes using List.reverseRecOn with
  | nil => rfl
  | append_singleton changes change ih =>
    rw [replay_concat, last?_concat, ← ih]
    cases change with
    | wrote a => exact get?_insert _ a type
    | erased out => exact get?_erase (nodup_types_replay changes) out type
    | begun => rfl

/-- What is found after a change is what it wrote, or what it left standing. -/
private theorem Change.found_eq_some_iff {before : Option Attribute} (typed : before = some a → a.type = type) :
    change.found type before = some a ↔
      a.type = type ∧
        (change = .wrote a ∨ before = some a ∧ ¬ change.Writes a.type ∧ ¬ change.Removes a.type) := by
  cases change <;> simp only [found, Writes, Removes] <;> grind

/-- The attribute under a type is the one that was written last. -/
theorem last?_eq_some_iff : last? changes type = some a ↔ a.type = type ∧ Last a changes := by
  induction changes using List.reverseRecOn with
  | nil => simp [last?, Last, not_wroteSince_nil]
  | append_singleton changes change ih =>
    rw [last?_concat, Change.found_eq_some_iff fun h => (ih.1 h).1, ih, last_concat]
    exact and_congr_right fun htype => or_congr_right (and_congr_left' (and_iff_right htype))

/-- A type stands in a template iff its history wrote it and did not remove it since. -/
theorem mem_types_replay : type ∈ (replay changes).types ↔ Stays type changes := by
  induction changes using List.reverseRecOn with
  | nil => simp [replay, empty, types, Stays, not_wroteSince_nil]
  | append_singleton changes change ih =>
    rw [replay_concat, stays_concat]
    cases change with
    | wrote a =>
      show type ∈ ((replay changes).insert a).types ↔ a.type = type ∨ Stays type changes ∧ ¬ False
      rw [types_insert]
      split
      next hmem =>
        rw [ih]
        constructor
        · exact fun h => .inr ⟨h, not_false⟩
        · rintro (rfl | ⟨h, -⟩)
          · exact ih.1 hmem
          · exact h
      next => simp [ih, or_comm, eq_comm]
    | erased out =>
      show type ∈ ((replay changes).erase out).types ↔ False ∨ Stays type changes ∧ ¬ out = type
      rw [types_erase, (nodup_types_replay changes).mem_erase_iff, ih]
      simp [and_comm, eq_comm]
    | begun => simp [Change.apply, empty, types, Change.Writes, Change.Removes]

/-- A type that came to a place has stayed since. -/
theorem CameAt.stays {place : Nat} (came : CameAt type place changes) : Stays type changes := by
  obtain ⟨before, a, later, heq, ⟨htype, -, -⟩, since⟩ := came
  exact ⟨before, a, later, heq, htype, since⟩

private theorem CameAt.lt_length {place : Nat} (came : CameAt type place changes) : place < changes.length := by
  obtain ⟨before, a, later, rfl, ⟨-, rfl, -⟩, -⟩ := came
  simp

/-- A type that is there came in at one place. -/
theorem existsUnique_cameAt (stays : Stays type changes) : ∃! place, CameAt type place changes := by
  induction changes using List.reverseRecOn with
  | nil => exact absurd stays not_wroteSince_nil
  | append_singleton changes change ih =>
    simp only [cameAt_concat]
    rw [stays_concat] at stays
    by_cases there : Stays type changes
    · have kept : ¬ change.Removes type := by
        rcases stays with writes | ⟨-, kept⟩
        · cases change with
          | wrote a => exact not_false
          | erased _ | begun => cases writes
        · exact kept
      simpa [there, kept] using ih there
    · have writes : change.Writes type := stays.resolve_right fun h => there h.1
      refine ⟨changes.length, .inl ⟨writes, rfl, there⟩, ?_⟩
      rintro place (⟨-, rfl, -⟩ | ⟨came, -⟩)
      · rfl
      · exact absurd came.stays there

/-- The types are in the order in which they came in: a change takes some out, or adds one at the end. -/
theorem pairwise_types_replay (changes : List Change) :
    (replay changes).types.Pairwise fun type other =>
      ∀ place otherPlace, CameAt type place changes → CameAt other otherPlace changes → place < otherPlace := by
  induction changes using List.reverseRecOn with
  | nil => exact .nil
  | append_singleton changes change ih =>
    -- A change gives a place only to a type that was not there.
    have earlier : ∀ type ∈ (replay changes).types, ∀ place,
        CameAt type place (changes ++ [change]) → CameAt type place changes := by
      intro type hmem place came
      rcases cameAt_concat.1 came with ⟨-, -, hnot⟩ | ⟨came, -⟩
      · exact absurd (mem_types_replay.1 hmem) hnot
      · exact came
    have kept := ih.imp_of_mem fun {type other} hmem hother before place otherPlace came otherCame =>
      before place otherPlace (earlier type hmem place came) (earlier other hother otherPlace otherCame)
    rw [replay_concat]
    cases change with
    | wrote a =>
      rw [Change.apply, types_insert]
      split
      next => exact kept
      next hnew =>
        refine List.pairwise_append.2 ⟨kept, List.pairwise_singleton _ _, ?_⟩
        intro type hmem other hother place otherPlace came otherCame
        rw [List.mem_singleton.1 hother] at otherCame
        have hlast : otherPlace = changes.length := by
          rcases cameAt_concat.1 otherCame with ⟨-, hplace, -⟩ | ⟨came, -⟩
          · exact hplace.symm
          · exact absurd (mem_types_replay.2 came.stays) hnew
        rw [hlast]
        exact (earlier type hmem place came).lt_length
    | erased out =>
      rw [Change.apply, types_erase]
      exact kept.sublist List.erase_sublist
    | begun => exact .nil

/-- The wire form of a template has an entry for each type, in order. -/
theorem forall₂_types_toWire {t : Template} (distinct : t.types.Nodup) (encoding : Encoding) :
    List.Forall₂ (fun type (entry : WireAttribute) =>
      entry.type = type ∧ ∃ a, t.get? type = some a ∧ entry = a.toWire encoding) t.types (t.toWire encoding) := by
  rw [toWire, Attribute.allToWire_eq_map, types, List.forall₂_map_left_iff, List.forall₂_map_right_iff,
    List.forall₂_same]
  intro a ha
  exact ⟨a.type_toWire encoding, a, Attribute.find?_type_of_mem distinct ha, rfl⟩

/-- Replaying a history gives the template the history records. -/
theorem recorded_replay (changes : List Change) : Recorded changes (replay changes) where
  distinct := nodup_types_replay changes
  stays _ := mem_types_replay
  place _ hmem := existsUnique_cameAt (mem_types_replay.1 hmem)
  order := pairwise_types_replay changes
  last type a := by rw [get?_replay, last?_eq_some_iff]
  none type := by rw [get?_eq_none_iff, mem_types_replay]
  wire := forall₂_types_toWire (nodup_types_replay changes)

/-! ## What edits come to -/

private theorem replay_append (changes more : List Change) :
    replay (changes ++ more) = more.foldl Change.apply (replay changes) :=
  List.foldl_append

private theorem replay_wrote (as : List Attribute) : replay (as.map .wrote) = ofAttributes as := by
  rw [replay, List.foldl_map]
  rfl

/-- A template of distinct types is what the writing of its attributes leaves. -/
theorem replay_attributes {t : Template} (distinct : t.types.Nodup) : replay (t.attributes.map .wrote) = t := by
  rw [replay_wrote, ofAttributes_attributes distinct]

/-- Beginning anew forgets the history. -/
private theorem replay_begun (changes : List Change) (as : List Attribute) :
    replay (changes ++ .begun :: as.map .wrote) = ofAttributes as := by
  rw [replay_append, List.foldl_cons, ← replay_wrote]
  rfl

/-- The template that an edit comes to, as the operations on templates compute it. -/
def Edit.applied (t : Template) : Edit → Except Error Template
  | .set type value => t.set type value
  | .insert a => .ok (t.insert a)
  | .ofTypes types => Template.ofTypes types
  | .ofWire encoding entries => Template.ofWire encoding entries
  | .erase type => .ok (t.erase type)
  | .setValue type value => (t.setValue? type value).getD (.ok t)

/-- An edit in place leaves what the operations compute, or all as it was if they fail. -/
theorem Edit.perform_eq (edit : Edit) (t : Template) :
    edit.perform t =
      match edit.applied t with
      | .ok u => (.ok (), u)
      | .error e => (.error e, t) := by
  cases edit with
  | set type value =>
    rw [perform, applied, Update.lift_bind, Template.set]
    cases Attribute.withValue type value <;> rfl
  | insert a => rfl
  | ofTypes types =>
    rw [perform, applied, Update.lift_bind]
    cases Template.ofTypes types <;> rfl
  | ofWire encoding entries =>
    rw [perform, applied, Update.lift_bind]
    cases Template.ofWire encoding entries <;> rfl
  | erase type => rfl
  -- The one edit that works on an attribute in place: on failure the attribute is put back as it was.
  | setValue type value =>
    rw [perform, applied, updateAt, setValue?]
    cases hfound : t.get? type with
    | none => rfl
    | some a =>
      simp only [Attribute.assign_eq, Option.map_some, Option.getD_some]
      cases a.setValue value with
      | ok b => rfl
      | error e => simp only [Except.map, insert_of_get? hfound]

/-- An edit of a replayed template succeeds iff it makes changes, and then replays them too. -/
theorem Edit.applied_replay (edit : Edit) (earlier : List Change) :
    edit.applied (replay earlier) = (edit.changes earlier).map fun changes => replay (earlier ++ changes) := by
  cases edit with
  | set type value =>
    rw [applied, changes, Template.set]
    cases Attribute.withValue type value with
    | error e => rfl
    | ok a => simp only [Except.map, replay_concat, Change.apply]
  | insert a => simp only [applied, changes, Except.map, replay_concat, Change.apply]
  | ofTypes types =>
    rw [applied, changes, ofTypes_eq]
    cases types.mapM Attribute.make with
    | error e => rfl
    | ok as => simp only [Except.map, replay_begun]
  | ofWire encoding entries =>
    rw [applied, changes, ofWire_eq]
    cases entries.mapM (Attribute.ofWire encoding) with
    | error e => rfl
    | ok as => simp only [Except.map, replay_begun]
  | erase type => simp only [applied, changes, Except.map, replay_concat, Change.apply]
  | setValue type value =>
    rw [applied, changes, setValue?, get?_replay]
    cases last? earlier type with
    | none => simp only [Option.map_none, Option.getD_none, Except.map, List.append_nil]
    | some a =>
      simp only [Option.map_some, Option.getD_some]
      cases a.setValue value with
      | error e => rfl
      | ok b => simp only [Except.map, replay_concat, Change.apply]

/-- An edit does to a template what it changes, or nothing if it fails. -/
theorem Edit.perform_replay (edit : Edit) (earlier : List Change) :
    edit.perform (replay earlier) =
      match edit.changes earlier with
      | .ok changes => (.ok (), replay (earlier ++ changes))
      | .error e => (.error e, replay earlier) := by
  rw [edit.perform_eq, edit.applied_replay]
  cases edit.changes earlier <;> rfl

/-- What an edit leaves behind is a replayed template again, also when the edit failed. -/
theorem Edit.after_replay (edit : Edit) (earlier : List Change) :
    edit.after (replay earlier) = replay (earlier ++ (edit.changes earlier).toOption.getD []) := by
  rw [after, edit.perform_replay]
  cases edit.changes earlier with
  | ok changes => rfl
  | error e => simp only [Except.toOption, Option.getD_none, List.append_nil]

/-- Edits do to a template what the history of its changes says. -/
theorem edited_eq_replay (edits : List Edit) : edited edits = replay (history edits) := by
  induction edits using List.reverseRecOn with
  | nil => rfl
  | append_singleton edits edit ih =>
    have hedited : edited (edits ++ [edit]) = edit.after (edited edits) := by
      rw [edited, List.foldl_append]
      rfl
    have hhistory : history (edits ++ [edit]) =
        history edits ++ (edit.changes (history edits)).toOption.getD [] := by
      rw [history, List.foldl_append]
      rfl
    rw [hedited, hhistory, ih, edit.after_replay]

/-- A template that is edited, whether the edits succeed or fail, is just what the history of its changes says. An
edit succeeds if what it writes can be made, and one that fails leaves the template as it was. -/
theorem edited_recorded (edits : List Edit) :
    Recorded (history edits) (edited edits) ∧
      ∀ edit : Edit,
        edit.result (edited edits) = (edit.changes (history edits)).map (fun _ => ()) ∧
          ∀ e, edit.result (edited edits) = .error e → edit.after (edited edits) = edited edits := by
  rw [edited_eq_replay]
  refine ⟨recorded_replay _, fun edit => ?_⟩
  rw [Edit.result, Edit.after, edit.perform_replay]
  cases edit.changes (history edits) with
  | ok changes => exact ⟨rfl, fun e h => nomatch h⟩
  | error e => exact ⟨rfl, fun _ _ => rfl⟩

/-- A label that is taken out and set again comes after the flag that was set in between, and a number is not taken
for it. -/
example :
    let edits : List Edit := [.set 0x3 (.text "a"), .set 0x1 (.bool true), .erase 0x3, .set 0x3 (.text "b"),
      .setValue 0x3 (.number 7)]
    (edited edits).types = [0x1, 0x3] ∧
      (edited edits).get? 0x3 = some ⟨0x3, .text, .held (.text "b")⟩ := ⟨rfl, rfl⟩

end Template

end TokenClient
