import TokenClient.Code
import TokenClient.Room

/-!
# The cursor of a search

A search hands out every handle once. The cursor keeps the handles it has handed out, in order and without
repetition, and takes from each batch of the token those that are new. A batch with nothing new exhausts
the cursor: a token that keeps repeating itself would otherwise never end the search.

Before a batch is looked through, room is set aside for as many handles as the caller wants, not for as many as the
batch holds. For `2 ^ 60` handles and more there is no room, and then the batch is lost (`FindCursor.filter`).

Handles are words, so only finitely many are new one after another (`FindCursor.size_le`). That is why a
search of all objects comes to an end whatever the token answers.
-/

namespace TokenClient

/-- The first handles of a batch, at most `max` of them, that are neither in `seen` nor earlier in the
batch. -/
def freshHandles (seen : List Code) : Nat → List Code → List Code
  | 0, _ => []
  | _ + 1, [] => []
  | max + 1, handle :: batch =>
    if handle ∈ seen then freshHandles seen (max + 1) batch
    else handle :: freshHandles (handle :: seen) max batch

/-- At most so many handles of a batch are handed out as are wanted. -/
theorem length_freshHandles_le (seen : List Code) (max : Nat) (batch : List Code) :
    (freshHandles seen max batch).length ≤ max := by
  fun_induction freshHandles seen max batch with
  | case1 => simp
  | case2 => simp
  | case3 _ _ _ _ _ ih => exact ih
  | case4 _ _ _ _ _ ih => simpa using ih

/-- Handles are handed out in the order of the batch. -/
theorem freshHandles_sublist (seen : List Code) (max : Nat) (batch : List Code) :
    (freshHandles seen max batch).Sublist batch := by
  fun_induction freshHandles seen max batch with
  | case1 => simp
  | case2 => simp
  | case3 _ _ _ _ _ ih => exact ih.cons _
  | case4 _ _ _ _ _ ih => exact ih.cons_cons _

/-- No handle that has been seen is new. -/
theorem not_mem_of_mem_freshHandles {seen : List Code} {max : Nat} {batch : List Code} {handle : Code}
    (h : handle ∈ freshHandles seen max batch) : handle ∉ seen := by
  fun_induction freshHandles seen max batch with
  | case1 => simp at h
  | case2 => simp at h
  | case3 _ _ _ _ _ ih => exact ih h
  | case4 seen max first batch hfirst ih =>
    rcases List.mem_cons.1 h with rfl | h
    · exact hfirst
    · exact fun hseen => ih h (List.mem_cons_of_mem _ hseen)

/-- No handle is new twice in a batch. -/
theorem nodup_freshHandles (seen : List Code) (max : Nat) (batch : List Code) :
    (freshHandles seen max batch).Nodup := by
  fun_induction freshHandles seen max batch with
  | case1 => simp
  | case2 => simp
  | case3 _ _ _ _ _ ih => exact ih
  | case4 seen max first batch _ ih =>
    exact List.nodup_cons.2 ⟨fun h => not_mem_of_mem_freshHandles h (List.mem_cons_self ..), ih⟩

/-- The progress of a search. -/
structure FindCursor where
  /-- The handles handed out so far, in order. -/
  returned : List Code
  /-- Whether the token had nothing new to say. -/
  exhausted : Bool
  returned_nodup : returned.Nodup
deriving DecidableEq, Repr

namespace FindCursor

/-- The cursor of a search that has handed out nothing. -/
def start : FindCursor := ⟨[], false, List.nodup_nil⟩

/-- The handles that are taken from a batch for which there is room: at most `max` new ones. -/
def fresh (cursor : FindCursor) (max : UInt64) (batch : List Code) : List Code :=
  freshHandles cursor.returned max.toNat batch

/-- The cursor after a batch for which there is room. -/
def advance (cursor : FindCursor) (max : UInt64) (batch : List Code) : FindCursor where
  returned := cursor.returned ++ cursor.fresh max batch
  exhausted := cursor.exhausted || (cursor.fresh max batch).isEmpty
  returned_nodup := List.nodup_append.2
    ⟨cursor.returned_nodup, nodup_freshHandles .., fun _ ha _ hb h =>
      not_mem_of_mem_freshHandles hb (h ▸ ha)⟩

/-- How many bytes a handle takes. -/
def handleSize : Nat := 8

/-- The handles of a batch that a search hands out if at most `max` are wanted, and the cursor after them. A panic
leaves the cursor as it is. -/
def filter (cursor : FindCursor) (max : UInt64) (batch : List Code) : Attempt (List Code × FindCursor) :=
  if HasRoom handleSize max.toNat then some (cursor.fresh max batch, cursor.advance max batch) else none

/-- The cursor after a batch, whether or not there is room for it. -/
def after (cursor : FindCursor) (max : UInt64) (batch : List Code) : FindCursor :=
  ((cursor.filter max batch).map (·.2)).getD cursor

/-- Where there is room, the new handles are handed out and the cursor is moved on past them. -/
theorem filter_of_room {cursor : FindCursor} {max : UInt64} {batch : List Code}
    (room : HasRoom handleSize max.toNat) :
    cursor.filter max batch = some (cursor.fresh max batch, cursor.advance max batch) := if_pos room

/-- Where there is no room, nothing comes of a batch. -/
theorem filter_of_no_room {cursor : FindCursor} {max : UInt64} {batch : List Code}
    (full : ¬ HasRoom handleSize max.toNat) : cursor.filter max batch = none := if_neg full

/-- Where there is room, a batch moves the cursor on. -/
theorem after_of_room {cursor : FindCursor} {max : UInt64} {batch : List Code}
    (room : HasRoom handleSize max.toNat) : cursor.after max batch = cursor.advance max batch := by
  rw [after, filter_of_room room]
  rfl

/-- A panic leaves the cursor as it is. -/
theorem after_of_no_room {cursor : FindCursor} {max : UInt64} {batch : List Code}
    (full : ¬ HasRoom handleSize max.toNat) : cursor.after max batch = cursor := by
  rw [after, filter_of_no_room full]
  rfl

/-- How many handles have been handed out. -/
def size (cursor : FindCursor) : Nat := cursor.returned.length

/-- A cursor grows by the handles that are handed out. -/
@[simp]
theorem size_advance (cursor : FindCursor) (max : UInt64) (batch : List Code) :
    (cursor.advance max batch).size = cursor.size + (cursor.fresh max batch).length := by
  simp [size, advance]

/-- There are no more handles than words. -/
theorem size_le (cursor : FindCursor) : cursor.size ≤ UInt64.size := by
  have hnodup : (cursor.returned.map UInt64.toNat).Nodup := by
    refine List.pairwise_map.2 (cursor.returned_nodup.imp ?_)
    exact fun h heq => h (UInt64.toNat_inj.1 heq)
  have hsub : cursor.returned.map UInt64.toNat ⊆ List.range UInt64.size := by
    intro n hn
    obtain ⟨handle, _, rfl⟩ := List.mem_map.1 hn
    exact List.mem_range.2 handle.toNat_lt
  have hlength := hnodup.length_le_of_subset hsub
  rwa [List.length_map, List.length_range] at hlength

/-- How many handles a search can still hand out. -/
def remaining (cursor : FindCursor) : Nat := UInt64.size - cursor.size

/-- There are fewer handles left to come after a batch with a new one in it. -/
theorem remaining_advance_lt {cursor : FindCursor} {max : UInt64} {batch : List Code}
    (h : cursor.fresh max batch ≠ []) : (cursor.advance max batch).remaining < cursor.remaining := by
  have hle := (cursor.advance max batch).size_le
  have hpos := List.length_pos_iff.2 h
  rw [size_advance] at hle
  unfold remaining
  rw [size_advance]
  omega

end FindCursor

end TokenClient
