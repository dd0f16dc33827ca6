/-!
# Texts cut at their bytes

A text is cut by counting bytes, and the bytes of a character are not cut apart: there is nothing from inside a
character on, and nothing from beyond the end. After a beginning of a text there is always the rest of it
(`Text.fromByte?_append`).
-/

namespace TokenClient.Text

/-- How many bytes a text takes. -/
def byteLength : List Char → Nat
  | [] => 0
  | c :: cs => c.utf8Size + byteLength cs

/-- A text from a byte on. There is none from inside a character, and none from beyond the end. -/
def fromByte? : (count : Nat) → List Char → Option (List Char)
  | 0, cs => some cs
  | _ + 1, [] => none
  | count + 1, c :: cs => if c.utf8Size ≤ count + 1 then fromByte? (count + 1 - c.utf8Size) cs else none

/-- A text can be cut after any beginning of it. -/
theorem fromByte?_append (first rest : List Char) : fromByte? (byteLength first) (first ++ rest) = some rest := by
  induction first with
  | nil => rw [byteLength, fromByte?, List.nil_append]
  | cons c first ih =>
    obtain ⟨more, hsize⟩ := Nat.exists_eq_add_one.2 c.utf8Size_pos
    have hlength : byteLength (c :: first) = more + byteLength first + 1 := by
      rw [byteLength, hsize, Nat.add_right_comm]
    have hrest : more + byteLength first + 1 - (more + 1) = byteLength first := by omega
    rw [hlength, List.cons_append, fromByte?, hsize, if_pos (by omega), hrest]
    exact ih

end TokenClient.Text
