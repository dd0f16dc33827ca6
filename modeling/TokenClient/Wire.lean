import TokenClient.Code

/-!
# Attributes on the wire

The form in which attributes pass between a client and a module: a type with no value, with bytes, or
with a nested list of attributes.
-/

namespace TokenClient

mutual

/-- A value on the wire. -/
inductive WireValue where
  /-- No value: an entry to be filled, or one that was not. -/
  | null
  | bytes (bytes : Bytes)
  | nested (entries : List WireAttribute)

/-- An attribute on the wire. -/
structure WireAttribute where
  type : Code
  value : WireValue

end

mutual

/-- Whether two wire values are the same. -/
def WireValue.same : WireValue → WireValue → Bool
  | .null, .null => true
  | .bytes a, .bytes b => a == b
  | .nested as, .nested bs => WireAttribute.sameAll as bs
  | _, _ => false

/-- Whether two wire attributes are the same. -/
def WireAttribute.same : WireAttribute → WireAttribute → Bool
  | ⟨t, v⟩, ⟨u, w⟩ => t == u && v.same w

/-- Whether two lists of wire attributes are the same. -/
def WireAttribute.sameAll : List WireAttribute → List WireAttribute → Bool
  | [], [] => true
  | a :: as, b :: bs => a.same b && WireAttribute.sameAll as bs
  | _, _ => false

end

mutual

/-- Wire values are the same exactly if they are equal. -/
theorem WireValue.same_iff : ∀ v w : WireValue, v.same w = true ↔ v = w
  | .null, w => by cases w <;> simp [WireValue.same]
  | .bytes a, w => by cases w <;> simp [WireValue.same]
  | .nested as, w => by
    cases w with
    | nested bs => rw [WireValue.same, WireAttribute.sameAll_iff as bs, WireValue.nested.injEq]
    | null | bytes b => simp [WireValue.same]

/-- Wire attributes are the same exactly if they are equal. -/
theorem WireAttribute.same_iff : ∀ a b : WireAttribute, a.same b = true ↔ a = b
  | ⟨t, v⟩, ⟨u, w⟩ => by
    rw [WireAttribute.same, Bool.and_eq_true, beq_iff_eq, WireValue.same_iff v w,
      WireAttribute.mk.injEq]

private theorem WireAttribute.sameAll_iff : ∀ as bs : List WireAttribute,
    WireAttribute.sameAll as bs = true ↔ as = bs
  | [], bs => by cases bs <;> simp [WireAttribute.sameAll]
  | a :: as, bs => by
    cases bs with
    | nil => simp [WireAttribute.sameAll]
    | cons b bs =>
      rw [WireAttribute.sameAll, Bool.and_eq_true, WireAttribute.same_iff a b,
        WireAttribute.sameAll_iff as bs, List.cons.injEq]

end

instance : Inhabited WireValue := ⟨.null⟩

/-- An entry that asks for the value of a type. -/
def WireAttribute.query (type : Code) : WireAttribute := ⟨type, .null⟩

end TokenClient
