import Mathlib.Data.List.Basic
import TokenClient.Proofs.Module.Exchange
import TokenClient.Session.FindCursor

/-!
# What a search hands out

A search is a series of calls for further handles. What they come to is a matter of the cursor and of what
the module replies (`FindCursor.Hands`); the session around them plays no part. All that is known of a
search is read off this relation by induction on the calls.

- The handles that are handed out are those by which the cursor grows, so none of them comes twice
  (`FindCursor.Hands.returned`).
- A call that hands out nothing leaves the cursor exhausted, and no later call asks the module
  (`FindCursor.Hands.silent`).
- If the module keeps to the limits, nothing is lost (`FindCursor.Hands.complete`). One lemma about a single
  batch carries this: what is new in it is what is left of it when repetitions are dropped
  (`freshHandles_eq_eraseDups`).

A call that panics comes to no result and leaves the cursor alone, so it is none of the calls of this relation. The
batch that the module has given it is lost (`Loses`).
-/

namespace TokenClient

/-- A call for further handles that has come to a result: how many at most, the exchanges with the module,
and what the caller got. -/
structure Pull where
  max : UInt64
  exchanges : List Exchange
  result : Except Error (List Code)

/-- The batch of handles that the module gave in an exchange. -/
def Exchange.batch? : Exchange → Option (List Code)
  | ⟨.inSession _ (.findObjects _), reply⟩ => reply.result.toOption
  | _ => none

namespace Pull

/-- The handles that the caller got. -/
def handles (pull : Pull) : List Code :=
  match pull.result with
  | .ok handles => handles
  | .error _ => []

/-- The batches that the module gave. -/
def batches (pull : Pull) : List (List Code) := pull.exchanges.filterMap Exchange.batch?

/-- Nothing was asked of the module, and the caller got nothing. -/
def IsSilent (pull : Pull) : Prop := pull.exchanges = [] ∧ pull.result = .ok []

/-- The module was asked once under a session's handle, for as many handles as the caller wants. Its failure
is passed on as it is. Of its batch the caller gets at most so many handles, in the order of the batch. -/
inductive Asks (handle : Code) (pull : Pull) : Prop
  | failed {reply : Reply (.inSession handle (.findObjects pull.max))} {e : Error}
      (asked : pull.exchanges = [⟨.inSession handle (.findObjects pull.max), reply⟩])
      (replied : reply.result = .error e) (got : pull.result = .error e)
  | handed {reply : Reply (.inSession handle (.findObjects pull.max))} {batch handles : List Code}
      (asked : pull.exchanges = [⟨.inSession handle (.findObjects pull.max), reply⟩])
      (replied : reply.result = .ok batch) (got : pull.result = .ok handles)
      (few : handles.length ≤ pull.max.toNat) (taken : handles.Sublist batch)

end Pull

/-- A call for further handles, at most `max`, that panics: the module was asked once and gave a batch, and there is
no room for so many handles. -/
inductive Loses (handle : Code) (max : UInt64) (exchanges : List Exchange) : Prop
  | lost {reply : Reply (.inSession handle (.findObjects max))} {batch : List Code}
      (asked : exchanges = [⟨.inSession handle (.findObjects max), reply⟩]) (replied : reply.result = .ok batch)
      (full : ¬ HasRoom FindCursor.handleSize max.toNat)

/-! ## A single batch -/

/-- Where there is room for a whole batch, what is new in it is what is left when the handles seen before
and repetitions are dropped. -/
theorem freshHandles_eq_eraseDups {seen : List Code} {max : Nat} {batch : List Code}
    (fits : batch.length ≤ max) : freshHandles seen max batch = (batch.removeAll seen).eraseDups := by
  fun_induction freshHandles seen max batch with
  | case1 seen batch =>
    rw [List.eq_nil_of_length_eq_zero (Nat.le_zero.1 fits)]
    rfl
  | case2 seen max => rfl
  | case3 seen max first batch hseen ih =>
    rw [List.length_cons] at fits
    rw [ih (by omega), List.removeAll, List.removeAll, List.filter_cons_of_neg (by simpa using hseen)]
  | case4 seen max first batch hseen ih =>
    rw [List.length_cons] at fits
    rw [ih (by omega), List.removeAll, List.removeAll, List.filter_cons_of_pos (by simpa using hseen),
      List.eraseDups_cons, List.filter_filter]
    congr 3
    funext handle
    by_cases h : handle = first <;> simp [h]

/-- A batch with nothing new holds only handles that were seen before. -/
theorem subset_of_freshHandles_eq_nil {seen : List Code} {max : Nat} {batch : List Code}
    (positive : 0 < max) (h : freshHandles seen max batch = []) : batch ⊆ seen := by
  fun_induction freshHandles seen max batch with
  | case1 => exact absurd positive (Nat.lt_irrefl 0)
  | case2 => exact List.nil_subset _
  | case3 seen max first batch hseen ih => exact List.cons_subset.2 ⟨hseen, ih positive h⟩
  | case4 => cases h

/-- A batch with fresh handles has a handle not seen before. -/
private theorem exists_new_of_freshHandles_ne_nil {seen : List Code} {max : Nat} {batch : List Code}
    (h : freshHandles seen max batch ≠ []) : ∃ handle ∈ batch, handle ∉ seen := by
  obtain ⟨handle, hmem⟩ := List.exists_mem_of_ne_nil _ h
  exact ⟨handle, (freshHandles_sublist seen max batch).mem hmem, not_mem_of_mem_freshHandles hmem⟩

/-- Nothing in a batch is new if all of it has been seen. -/
theorem freshHandles_of_subset {seen batch : List Code} (old : batch ⊆ seen) (max : Nat) :
    freshHandles seen max batch = [] := by
  fun_induction freshHandles seen max batch with
  | case1 => rfl
  | case2 => rfl
  | case3 _ _ _ _ _ ih => exact ih (List.cons_subset.1 old).2
  | case4 _ _ _ _ hnew _ => exact absurd (List.cons_subset.1 old).1 hnew

/-- New handles are all taken if there is room for them, and what repeats them is not. -/
theorem freshHandles_append {seen batch again : List Code} {max : Nat} (fits : batch.length ≤ max)
    (new : (seen ++ batch).Nodup) (old : again ⊆ seen ++ batch) :
    freshHandles seen max (batch ++ again) = batch := by
  induction batch generalizing seen max with
  | nil => exact freshHandles_of_subset (by simpa using old) max
  | cons first batch ih =>
    obtain ⟨max, rfl⟩ := Nat.exists_eq_add_one.2 (Nat.lt_of_lt_of_le (Nat.succ_pos _) fits)
    have hfirst : first ∉ seen := fun h =>
      (List.nodup_append.1 new).2.2 first h first List.mem_cons_self rfl
    have hperm : (seen ++ first :: batch).Perm (first :: seen ++ batch) := List.perm_middle
    rw [List.cons_append, freshHandles, if_neg hfirst]
    refine congrArg (first :: ·) (ih (Nat.le_of_succ_le_succ fits) (hperm.nodup_iff.1 new) ?_)
    exact fun handle h => hperm.mem_iff.1 (old h)

/-! ## A search -/

/-- Each of the batches holds a handle that is neither among those seen before nor in an earlier batch. -/
def EachNew (seen : List Code) (batches : List (List Code)) : Prop :=
  ∀ before batch later, batches = before ++ batch :: later →
    ∃ handle ∈ batch, handle ∉ seen ++ before.flatten

/-- Which batches are new depends on what was seen, not on its order. -/
theorem EachNew.congr {seen other : List Code} {batches : List (List Code)}
    (new : EachNew seen batches) (same : ∀ handle, handle ∈ seen ↔ handle ∈ other) :
    EachNew other batches := by
  intro before batch later heq
  obtain ⟨handle, hmem, hnew⟩ := new before batch later heq
  refine ⟨handle, hmem, ?_⟩
  rwa [List.mem_append, ← same, ← List.mem_append]

/-- A batch with a new handle, and new ones after it. -/
theorem EachNew.cons {seen batch : List Code} {batches : List (List Code)}
    (first : ∃ handle ∈ batch, handle ∉ seen) (rest : EachNew (seen ++ batch) batches) :
    EachNew seen (batch :: batches) := by
  intro before other later heq
  cases before with
  | nil =>
    cases heq
    simpa using first
  | cons head before =>
    cases heq
    simpa using rest before other later rfl

namespace FindCursor

/-- The calls for handles, made one after the other under a session's handle, lead from the first cursor to
the second. -/
inductive Hands (handle : Code) : FindCursor → List Pull → FindCursor → Prop
  | nil (cursor : FindCursor) : Hands handle cursor [] cursor
  | spent {cursor last : FindCursor} {pulls : List Pull} {max : UInt64}
      (exhausted : cursor.exhausted = true) (rest : Hands handle cursor pulls last) :
      Hands handle cursor (⟨max, [], .ok []⟩ :: pulls) last
  | failed {cursor last : FindCursor} {pulls : List Pull} {max : UInt64}
      {reply : Reply (.inSession handle (.findObjects max))} {e : Error}
      (more : cursor.exhausted = false) (replied : reply.result = .error e)
      (rest : Hands handle cursor pulls last) :
      Hands handle cursor (⟨max, [⟨.inSession handle (.findObjects max), reply⟩], .error e⟩ :: pulls) last
  | handed {cursor last : FindCursor} {pulls : List Pull} {max : UInt64} {batch : List Code}
      {reply : Reply (.inSession handle (.findObjects max))}
      (more : cursor.exhausted = false) (positive : 0 < max) (room : HasRoom handleSize max.toNat)
      (replied : reply.result = .ok batch) (rest : Hands handle (cursor.advance max batch) pulls last) :
      Hands handle cursor
        (⟨max, [⟨.inSession handle (.findObjects max), reply⟩], .ok (cursor.fresh max batch)⟩ :: pulls) last

variable {handle : Code} {cursor middle last : FindCursor} {pulls later : List Pull} {pull : Pull}

/-- Pulls follow one another. -/
theorem Hands.append (first : cursor.Hands handle pulls middle) (rest : middle.Hands handle later last) :
    cursor.Hands handle (pulls ++ later) last := by
  induction first with
  | nil => exact rest
  | spent exhausted _ ih => exact .spent exhausted (ih rest)
  | failed more replied _ ih => exact .failed more replied (ih rest)
  | handed more positive room replied _ ih => exact .handed more positive room replied (ih rest)

/-- And can be cut anywhere. -/
theorem Hands.split (hands : cursor.Hands handle (pulls ++ later) last) :
    ∃ middle, cursor.Hands handle pulls middle ∧ middle.Hands handle later last := by
  induction pulls generalizing cursor with
  | nil => exact ⟨cursor, .nil cursor, hands⟩
  | cons pull pulls ih =>
    cases hands with
    | spent exhausted rest =>
      obtain ⟨middle, hfirst, hrest⟩ := ih rest
      exact ⟨middle, .spent exhausted hfirst, hrest⟩
    | failed more replied rest =>
      obtain ⟨middle, hfirst, hrest⟩ := ih rest
      exact ⟨middle, .failed more replied hfirst, hrest⟩
    | handed more positive room replied rest =>
      obtain ⟨middle, hfirst, hrest⟩ := ih rest
      exact ⟨middle, .handed more positive room replied hfirst, hrest⟩

/-- An advanced cursor has returned the fresh handles too. -/
@[simp]
theorem returned_advance (cursor : FindCursor) (max : UInt64) (batch : List Code) :
    (cursor.advance max batch).returned = cursor.returned ++ cursor.fresh max batch := rfl

/-- It is exhausted once a batch brought no fresh handle. -/
@[simp]
theorem exhausted_advance (cursor : FindCursor) (max : UInt64) (batch : List Code) :
    (cursor.advance max batch).exhausted = (cursor.exhausted || (cursor.fresh max batch).isEmpty) := rfl

/-- The cursor grows by the handles that are handed out. -/
theorem Hands.returned (hands : cursor.Hands handle pulls last) :
    last.returned = cursor.returned ++ pulls.flatMap Pull.handles := by
  induction hands with
  | nil => simp
  | spent _ _ ih => simpa [Pull.handles] using ih
  | failed _ _ _ ih => simpa [Pull.handles] using ih
  | handed _ _ _ _ _ ih => simpa [Pull.handles] using ih

/-- No handle is returned twice. -/
theorem Hands.nodup (hands : cursor.Hands handle pulls last) : (pulls.flatMap Pull.handles).Nodup := by
  have hlast := last.returned_nodup
  rw [hands.returned] at hlast
  exact (List.nodup_append.1 hlast).2.1

/-- An exhausted cursor stays so. -/
theorem Hands.exhausted (hands : cursor.Hands handle pulls last) (exhausted : cursor.exhausted = true) :
    last.exhausted = true := by
  induction hands with
  | nil => exact exhausted
  | spent _ _ ih => exact ih exhausted
  | failed more _ _ _ => exact absurd exhausted (by simp [more])
  | handed more _ _ _ _ _ => exact absurd exhausted (by simp [more])

/-- An exhausted cursor asks the module nothing more. -/
private theorem Hands.silent_of_exhausted (hands : cursor.Hands handle pulls last)
    (exhausted : cursor.exhausted = true) : ∀ pull ∈ pulls, pull.IsSilent := by
  induction hands with
  | nil => exact fun _ h => nomatch h
  | spent _ _ ih => exact List.forall_mem_cons.2 ⟨⟨rfl, rfl⟩, ih exhausted⟩
  | failed more _ _ _ => exact absurd exhausted (by simp [more])
  | handed more _ _ _ _ _ => exact absurd exhausted (by simp [more])

/-- The cursor is exhausted once a call has handed out nothing. -/
theorem Hands.exhausted_iff (hands : cursor.Hands handle pulls last) :
    last.exhausted = true ↔ cursor.exhausted = true ∨ ∃ pull ∈ pulls, pull.result = .ok [] := by
  induction hands with
  | nil => simp
  | spent exhausted rest _ => simp [exhausted, rest.exhausted exhausted]
  | failed _ _ _ ih => simp [ih]
  | handed _ _ _ _ _ ih => simp [ih, or_assoc]

/-- After a call that has handed out nothing the module is not asked again. -/
theorem Hands.silent (hands : cursor.Hands handle (pulls ++ pull :: later) last)
    (earlier : ∃ other ∈ pulls, other.result = .ok []) : pull.IsSilent := by
  obtain ⟨middle, hfirst, hrest⟩ := hands.split
  exact hrest.silent_of_exhausted (hfirst.exhausted_iff.2 (.inr earlier)) pull List.mem_cons_self

/-- Until then every call asks the module. -/
theorem Hands.asks (hands : cursor.Hands handle (pulls ++ pull :: later) last)
    (more : cursor.exhausted = false) (never : ∀ other ∈ pulls, other.result ≠ .ok []) :
    pull.Asks handle := by
  obtain ⟨middle, hfirst, hrest⟩ := hands.split
  have hmore : ¬ middle.exhausted = true := by
    rw [hfirst.exhausted_iff, more]
    rintro (h | ⟨other, hmem, hother⟩)
    · cases h
    · exact never other hmem hother
  cases hrest with
  | spent exhausted _ => exact absurd exhausted hmore
  | failed _ replied _ => exact .failed rfl replied rfl
  | handed _ _ _ replied _ =>
    exact .handed rfl replied rfl (length_freshHandles_le ..) (freshHandles_sublist ..)

/-! ## Nothing is lost -/

/-- Where there is room for a whole batch, the handles handed out after it are those before it and those in
it. -/
theorem mem_returned_append_fresh {max : UInt64} {batch : List Code} (fits : batch.length ≤ max.toNat)
    {handle : Code} :
    handle ∈ cursor.returned ++ cursor.fresh max batch ↔ handle ∈ cursor.returned ++ batch := by
  rw [fresh, freshHandles_eq_eraseDups fits]
  by_cases h : handle ∈ cursor.returned <;> simp [List.removeAll, h]

private theorem Hands.batches_of_exhausted (hands : cursor.Hands handle pulls last)
    (exhausted : cursor.exhausted = true) :
    pulls.flatMap Pull.batches = [] ∧ pulls.flatMap Pull.handles = [] := by
  have silent := hands.silent_of_exhausted exhausted
  refine ⟨List.flatMap_eq_nil_iff.2 fun pull h => ?_, List.flatMap_eq_nil_iff.2 fun pull h => ?_⟩
  · rw [Pull.batches, (silent pull h).1, List.filterMap_nil]
  · rw [Pull.handles, (silent pull h).2]

/-- Where the module keeps to the limits, a search hands out what its batches hold, each handle once, as
they come. All batches but perhaps the last one hold something new. -/
theorem Hands.complete (hands : cursor.Hands handle pulls last) (more : cursor.exhausted = false)
    (fits : ∀ pull ∈ pulls, ∀ batch ∈ pull.batches, batch.length ≤ pull.max.toNat) :
    ∃ news stale, pulls.flatMap Pull.batches = news ++ stale ∧ EachNew cursor.returned news ∧
      stale.length ≤ 1 ∧ (∀ batch ∈ stale, batch ⊆ cursor.returned ++ news.flatten) ∧
      pulls.flatMap Pull.handles = (news.flatten.removeAll cursor.returned).eraseDups := by
  induction hands with
  | nil cursor => exact ⟨[], [], rfl, by simp [EachNew], by simp, by simp, rfl⟩
  | spent exhausted _ _ => exact absurd exhausted (by simp [more])
  | failed _ replied _ ih =>
    obtain ⟨news, stale, hbatches, others⟩ := ih more (List.forall_mem_cons.1 fits).2
    refine ⟨news, stale, ?_, others⟩
    simpa [Pull.batches, Exchange.batch?, replied, Except.toOption] using hbatches
  | @handed cursor last pulls max batch reply _ positive _ replied rest ih =>
    obtain ⟨hfits, hrest⟩ := List.forall_mem_cons.1 fits
    have hbatch : Pull.batches ⟨max, [⟨.inSession handle (.findObjects max), reply⟩],
        .ok (cursor.fresh max batch)⟩ = [batch] := by
      simp [Pull.batches, Exchange.batch?, replied, Except.toOption]
    have hroom : batch.length ≤ max.toNat := hfits batch (by rw [hbatch]; exact List.mem_singleton_self _)
    rw [List.flatMap_cons, List.flatMap_cons, hbatch]
    -- A batch without fresh handles is the stale one: after it the cursor is exhausted and asks no more.
    by_cases hnew : cursor.fresh max batch = []
    · have hexhausted : (cursor.advance max batch).exhausted = true := by simp [hnew]
      obtain ⟨hbatches, hhandles⟩ := rest.batches_of_exhausted hexhausted
      refine ⟨[], [batch], by simp [hbatches], by simp [EachNew], by simp, ?_, ?_⟩
      · simpa using subset_of_freshHandles_eq_nil (UInt64.lt_iff_toNat_lt.1 positive) hnew
      · rw [hhandles, Pull.handles, hnew]
        rfl
    · have hmore : (cursor.advance max batch).exhausted = false := by simp [more, hnew]
      obtain ⟨news, stale, hbatches, hnews, hlength, hstale, hhandles⟩ := ih hmore hrest
      refine ⟨batch :: news, stale, by simp [hbatches], ?_, hlength, ?_, ?_⟩
      · refine .cons (exists_new_of_freshHandles_ne_nil hnew) (hnews.congr fun handle => ?_)
        exact mem_returned_append_fresh hroom
      · intro other hmem handle hhandle
        have h := hstale other hmem hhandle
        rw [returned_advance, List.mem_append, mem_returned_append_fresh hroom] at h
        simpa [or_assoc] using h
      · -- What the later batches add is new both to the cursor and to this batch.
        have hlater : news.flatten.removeAll (cursor.advance max batch).returned =
            (news.flatten.removeAll cursor.returned).removeAll (batch.removeAll cursor.returned) := by
          rw [returned_advance, fresh, freshHandles_eq_eraseDups hroom]
          simp only [List.removeAll, List.filter_filter]
          refine List.filter_congr fun handle _ => ?_
          by_cases h : handle ∈ cursor.returned <;> simp [h]
        have hsplit : (batch ++ news.flatten).removeAll cursor.returned =
            batch.removeAll cursor.returned ++ news.flatten.removeAll cursor.returned :=
          List.filter_append batch news.flatten
        rw [hhandles, hlater, List.flatten_cons, hsplit, List.eraseDups_append]
        exact congrArg (· ++ _) (freshHandles_eq_eraseDups hroom)

/-- Where the module keeps to the limits, a whole search hands out all that it has named. -/
theorem Hands.handles_eq (hands : start.Hands handle pulls last)
    (fits : ∀ pull ∈ pulls, ∀ batch ∈ pull.batches, batch.length ≤ pull.max.toNat) :
    pulls.flatMap Pull.handles = (pulls.flatMap Pull.batches).flatten.eraseDups := by
  obtain ⟨news, stale, hbatches, -, -, hstale, hhandles⟩ := hands.complete rfl fits
  have hold : stale.flatten.removeAll news.flatten = [] := by
    refine List.filter_eq_nil_iff.2 fun handle h => ?_
    obtain ⟨batch, hbatch, hmem⟩ := List.mem_flatten.1 h
    simpa [start] using hstale batch hbatch hmem
  rw [hhandles, hbatches, List.flatten_append, List.eraseDups_append, hold]
  simp [start, List.removeAll_nil]

end FindCursor

end TokenClient
