import Mathlib.Logic.Basic
import TokenClient.Mechanism.Capability

/-!
# What a capability has to do with a requirement

A requirement names up to two key sizes, and one expects of a capability that meets it that it offers both. What is
checked is less: the greatest size that is required is held against the greatest one offered, and the least against the
least. A least size beyond all that is offered is let through, and so is a greatest one that falls short of it.

The check never misses a capability that offers what is required. It lets others through just in these two cases, and
so not if a requirement names a stretch of sizes, from a least one to a greatest one (`MechanismInfo.supports_exact`).
-/

namespace TokenClient.MechanismInfo

variable {own required : MechanismInfo}

/-- A key size that a requirement names; zero names none. -/
def Names (required : MechanismInfo) (size : Code) : Prop :=
  size ≠ 0 ∧ (size = required.minKeySize ∨ size = required.maxKeySize)

/-- A key size from the least one offered to the greatest. -/
def Offers (own : MechanismInfo) (size : Code) : Prop := own.minKeySize ≤ size ∧ size ≤ own.maxKeySize

/-- Every flag that is required is set, with a name or without. -/
def HasFlags (own required : MechanismInfo) : Prop :=
  ∀ bit, required.flags.toNat.testBit bit = true → own.flags.toNat.testBit bit = true

/-- A capability offers all that is required. -/
def Meets (own required : MechanismInfo) : Prop :=
  (∀ size, required.Names size → own.Offers size) ∧ own.HasFlags required

/-- The mask test asks for every flag required. -/
private theorem and_flags_eq_iff : own.flags &&& required.flags = required.flags ↔ own.HasFlags required := by
  rw [← UInt64.toNat_inj, UInt64.toNat_and, HasFlags]
  constructor
  · intro h bit hbit
    rw [← h, Nat.testBit_and, Bool.and_eq_true] at hbit
    exact hbit.1
  · intro h
    refine Nat.eq_of_testBit_eq fun bit => ?_
    rw [Nat.testBit_and]
    cases hbit : required.flags.toNat.testBit bit with
    | false => rw [Bool.and_false]
    | true => rw [h bit hbit, Bool.and_true]

/-- Each size that is required is held against its counterpart. -/
theorem supports_eq_true_iff :
    own.supports required = true ↔
      (required.maxKeySize ≠ 0 → required.maxKeySize ≤ own.maxKeySize) ∧
        (required.minKeySize ≠ 0 → own.minKeySize ≤ required.minKeySize) ∧ own.HasFlags required := by
  rw [← and_flags_eq_iff]
  simp only [supports, Bool.and_eq_true, Bool.or_eq_true, beq_iff_eq, decide_eq_true_eq, or_iff_not_imp_left,
    and_assoc, ne_eq]

/-- The sizes that are named are two, and each has to lie between two bounds. -/
theorem meets_iff :
    own.Meets required ↔
      (required.minKeySize ≠ 0 → own.Offers required.minKeySize) ∧
        (required.maxKeySize ≠ 0 → own.Offers required.maxKeySize) ∧ own.HasFlags required := by
  constructor
  · rintro ⟨sizes, flags⟩
    exact ⟨fun h => sizes _ ⟨h, .inl rfl⟩, fun h => sizes _ ⟨h, .inr rfl⟩, flags⟩
  · rintro ⟨least, greatest, flags⟩
    refine ⟨?_, flags⟩
    rintro size ⟨hsize, rfl | rfl⟩
    · exact least hsize
    · exact greatest hsize

/-- What is not checked: a least size against the greatest one offered, and a greatest against the least. -/
theorem meets_iff_of_supports (supports : own.supports required = true) :
    own.Meets required ↔
      (required.minKeySize ≠ 0 → required.minKeySize ≤ own.maxKeySize) ∧
        (required.maxKeySize ≠ 0 → own.minKeySize ≤ required.maxKeySize) := by
  obtain ⟨greatest, least, flags⟩ := supports_eq_true_iff.1 supports
  rw [meets_iff]
  constructor
  · rintro ⟨hleast, hgreatest, -⟩
    exact ⟨fun h => (hleast h).2, fun h => (hgreatest h).1⟩
  · rintro ⟨hleast, hgreatest⟩
    exact ⟨fun h => ⟨least h, hleast h⟩, fun h => ⟨hgreatest h, greatest h⟩, flags⟩

/-- A mechanism that meets the requirements is reported as supported. -/
theorem Meets.supports (meets : own.Meets required) : own.supports required = true := by
  obtain ⟨least, greatest, flags⟩ := meets_iff.1 meets
  exact supports_eq_true_iff.2 ⟨fun h => (greatest h).2, fun h => (least h).1, flags⟩

/-- A stretch of sizes lies between what bounds its ends. -/
theorem meets_of_supports (supports : own.supports required = true) (least : required.minKeySize ≠ 0)
    (ordered : required.minKeySize ≤ required.maxKeySize) : own.Meets required := by
  have greatest : required.maxKeySize ≠ 0 := by
    intro h
    rw [h] at ordered
    exact least (UInt64.le_zero_iff.1 ordered)
  obtain ⟨hgreatest, hleast, -⟩ := supports_eq_true_iff.1 supports
  refine (meets_iff_of_supports supports).2 ⟨fun _ => ?_, fun _ => ?_⟩
  · exact UInt64.le_trans ordered (hgreatest greatest)
  · exact UInt64.le_trans (hleast least) ordered

/-- A capability is found to meet a requirement just if the greatest size required does not exceed the greatest one
offered, the least does not fall short of the least, and all flags are there. So one that offers all that is required
is found; what else is found fails to offer the least size because it is too great, or the greatest because it is too
small, and there is nothing else if the sizes required are a stretch. -/
theorem supports_exact (own required : MechanismInfo) :
    (own.supports required = true ↔
      (required.maxKeySize ≠ 0 → required.maxKeySize ≤ own.maxKeySize) ∧
        (required.minKeySize ≠ 0 → own.minKeySize ≤ required.minKeySize) ∧ own.HasFlags required) ∧
      (own.Meets required → own.supports required = true) ∧
      (own.supports required = true →
        (own.Meets required ↔
          (required.minKeySize ≠ 0 → required.minKeySize ≤ own.maxKeySize) ∧
            (required.maxKeySize ≠ 0 → own.minKeySize ≤ required.maxKeySize))) ∧
      (required.minKeySize ≠ 0 → required.minKeySize ≤ required.maxKeySize →
        (own.supports required = true ↔ own.Meets required)) :=
  ⟨supports_eq_true_iff, Meets.supports, meets_iff_of_supports,
    fun least ordered => ⟨fun h => meets_of_supports h least ordered, Meets.supports⟩⟩

/-- Sizes of 128 to 256 bits are found to meet a requirement of at least 512 bits. -/
theorem not_supports_iff_meets :
    (128 : Code) ≤ 256 ∧
      ¬ (supports ⟨128, 256, 0⟩ ⟨512, 0, 0⟩ = true ↔ Meets ⟨128, 256, 0⟩ ⟨512, 0, 0⟩) := by
  refine ⟨by decide, fun h => ?_⟩
  obtain ⟨sizes, -⟩ := h.1 (by decide)
  have offered : (512 : Code) ≤ 256 := (sizes 512 ⟨by decide, .inl rfl⟩).2
  exact absurd offered (by decide)

end TokenClient.MechanismInfo
