/-!
# Room for lists

Some calls set aside room for a list before they fill it, and for as many elements as the caller asks for. The room
that a list takes is counted in bytes by a signed word, so there are numbers of elements for which there is no room.
Asking for more is not a failure that is handed back: the call panics, and comes to nothing (`Attempt`).

Only this limit is modelled, not that memory may be used up before it is reached.
-/

namespace TokenClient

/-- What a call comes to that may panic: nothing if it does. -/
abbrev Attempt (α : Type) : Type := Option α

/-- There is room for a list of `count` elements of `size` bytes. -/
def HasRoom (size count : Nat) : Prop := size * count < 0x8000000000000000

instance (size count : Nat) : Decidable (HasRoom size count) :=
  inferInstanceAs (Decidable (size * count < 0x8000000000000000))

end TokenClient
