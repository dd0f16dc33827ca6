import Mathlib.Algebra.Order.Floor.Div
import Mathlib.GroupTheory.GroupAction.Ring
import TokenClient.Mechanism.Message

/-!
# Parameters of a message and of a single call

An algorithm takes its parameters in one form for a single call and in another for each message, and both forms are
checked when they are made. What they have in common, a nonce and the length of a tag, they should accept alike; what a
message has besides, how many bits of its nonce are fixed, is checked against the bits there are.

They do, but for one thing: an authenticator of an odd number of bytes, which the chained mode does not have, is
refused for a single call and accepted for a message (`MessageParams.accepts_exact`). The lengths are words, and are
computed without a carry out of the word.
-/

namespace TokenClient

section Guarded

variable {α : Type} {p : Prop} [Decidable p] {a b : α} {e e' : Error}

private theorem guarded_eq_ok_iff : (if p then Except.ok a else .error e) = .ok b ↔ p ∧ b = a := by
  by_cases hp : p <;> simp [hp, eq_comm]

private theorem guarded_error (h : (if p then Except.ok a else .error e) = .error e') : e' = e := by
  by_cases hp : p
  · rw [if_pos hp] at h
    cases h
  · rw [if_neg hp] at h
    cases h
    rfl

/-- What carries its condition with it is made just if the condition holds. -/
theorem isOk_make_iff {make : p → α} : (if h : p then Except.ok (make h) else .error e).isOk = true ↔ p := by
  by_cases hp : p <;> simp [hp, Except.isOk, Except.toBool]

/-- A guarded constructor fails with its one error. -/
theorem make_error {make : p → α} (h : (if h : p then Except.ok (make h) else .error e) = .error e') : e' = e := by
  by_cases hp : p
  · rw [dif_pos hp] at h
    cases h
  · rw [dif_neg hp] at h
    cases h
    rfl

end Guarded

namespace MessageParams

variable {iv nonce aad : Bytes} {source : IvSource} {dataLen tagBits macLen : Code} {params : MessageParams}

/-! ## Lengths as words -/

private theorem toNat_ofNat_min (n : Nat) :
    (UInt64.ofNat (min n (UInt64.size - 1))).toNat = min n (UInt64.size - 1) := by
  refine UInt64.toNat_ofNat_of_lt' ?_
  have hsize : 0 < UInt64.size := by decide
  omega

/-- A byte string with more bits than a word can count has as many as the greatest word. -/
theorem toNat_bitCount (bytes : Bytes) :
    (bitCount bytes).toNat = min (8 * bytes.length) (UInt64.size - 1) := by
  have height : (8 : Code).toNat = 8 := rfl
  rw [bitCount, saturatingMul, toNat_ofNat_min, toNat_ofNat_min, height]
  omega

/-- So the bits of a byte string are never found to be too few because there are too many to count. -/
theorem fixes_iff : Fixes iv source ↔ source.fixedBits.toNat ≤ 8 * iv.length := by
  have hlt : source.fixedBits.toNat < UInt64.size := source.fixedBits.toNat_lt_size
  rw [Fixes, UInt64.le_iff_toNat_le, toNat_bitCount]
  omega

/-- The number of bits of a tag leaves room for what is added to it. -/
theorem toNat_add_seven (h : tagBits ≤ 128) : (tagBits + 7).toNat = tagBits.toNat + 7 := by
  have hle : tagBits.toNat ≤ 128 := UInt64.le_iff_toNat_le.1 h
  rw [UInt64.toNat_add]
  exact Nat.mod_eq_of_lt (by simp; omega)

/-- The bytes for a number of tag bits, rounded up. -/
private theorem bytesFor_eq (h : tagBits ≤ 128) : bytesFor tagBits = tagBits.toNat ⌈/⌉ 8 := by
  rw [bytesFor, UInt64.toNat_div, toNat_add_seven h, Nat.ceilDiv_eq_add_pred_div]
  rfl

/-! ## What is accepted -/

/-- What is required of the parameters of a GCM message. -/
private theorem makeGcm_eq_ok_iff :
    makeGcm iv source tagBits = .ok params ↔
      (GcmParams.make iv aad tagBits).isOk = true ∧ source.fixedBits.toNat ≤ 8 * iv.length ∧
        params = .gcm iv source (List.replicate (tagBits.toNat ⌈/⌉ 8) 0) := by
  rw [makeGcm, guarded_eq_ok_iff, GcmParams.make, isOk_make_iff, fixes_iff, and_assoc]
  refine and_congr_right fun hbits => ?_
  rw [bytesFor_eq hbits]

/-- An authenticator that has the length of one but for its parity. -/
def HasOddMac (nonce : Bytes) (macLen : Code) : Prop :=
  IsCcmNonce nonce ∧ 4 ≤ macLen ∧ macLen ≤ 16 ∧ macLen % 2 = 1

private theorem even_or_odd (n : Code) : n % 2 = 0 ∨ n % 2 = 1 := by
  simp only [← UInt64.toNat_inj, UInt64.toNat_mod]
  exact Nat.mod_two_eq_zero_or_one n.toNat

/-- The length of an authenticator is even for a single call; for a message its parity does not matter. -/
theorem isOk_make_or_hasOddMac_iff :
    (CcmParams.make dataLen nonce aad macLen).isOk = true ∨ HasOddMac nonce macLen ↔
      IsCcmNonce nonce ∧ 4 ≤ macLen ∧ macLen ≤ 16 := by
  rw [CcmParams.make, isOk_make_iff, HasOddMac]
  constructor
  · rintro (⟨hnonce, hleast, hmost, -⟩ | ⟨hnonce, hleast, hmost, -⟩) <;> exact ⟨hnonce, hleast, hmost⟩
  · rintro ⟨hnonce, hleast, hmost⟩
    cases even_or_odd macLen with
    | inl even => exact .inl ⟨hnonce, hleast, hmost, even⟩
    | inr odd => exact .inr ⟨hnonce, hleast, hmost, odd⟩

/-- What is required of those of a CCM message: an odd length of the code passes as well. -/
private theorem makeCcm_eq_ok_iff :
    makeCcm dataLen nonce source macLen = .ok params ↔
      ((CcmParams.make dataLen nonce aad macLen).isOk = true ∨ HasOddMac nonce macLen) ∧
        source.fixedBits.toNat ≤ 8 * nonce.length ∧
          params = .ccm dataLen nonce source (List.replicate macLen.toNat 0) := by
  rw [makeCcm, guarded_eq_ok_iff, isOk_make_or_hasOddMac_iff, fixes_iff]
  simp only [and_assoc]

/-- What is required of those of a ChaCha20-Poly1305 message. -/
private theorem makeChaCha20Poly1305_eq_ok_iff :
    makeChaCha20Poly1305 nonce = .ok params ↔
      (ChaCha20Poly1305Params.make nonce aad).isOk = true ∧
        params = .chaCha20Poly1305 nonce (List.replicate 16 0) := by
  rw [makeChaCha20Poly1305, guarded_eq_ok_iff, ChaCha20Poly1305Params.make, isOk_make_iff]

/-- The parameters of a message are made just where those of a single call are and no more bits are fixed than there
are, but for authenticators of odd length, which a message may have. What is made has a tag of zeros of the length that
was asked for, and a refusal is of bad arguments. No length exceeds a word on the way: seven more than an accepted
number of bits is a word, and a count of bits stops at the greatest one. -/
theorem accepts_exact (nonce aad : Bytes) (dataLen length : Code) (source : IvSource) :
    (∀ params, makeGcm nonce source length = .ok params ↔
      (GcmParams.make nonce aad length).isOk = true ∧ source.fixedBits.toNat ≤ 8 * nonce.length ∧
        params = .gcm nonce source (List.replicate (length.toNat ⌈/⌉ 8) 0)) ∧
      (∀ params, makeCcm dataLen nonce source length = .ok params ↔
        ((CcmParams.make dataLen nonce aad length).isOk = true ∨ HasOddMac nonce length) ∧
          source.fixedBits.toNat ≤ 8 * nonce.length ∧
            params = .ccm dataLen nonce source (List.replicate length.toNat 0)) ∧
      (∀ params, makeChaCha20Poly1305 nonce = .ok params ↔
        (ChaCha20Poly1305Params.make nonce aad).isOk = true ∧
          params = .chaCha20Poly1305 nonce (List.replicate 16 0)) ∧
      (∀ e, makeGcm nonce source length = .error e ∨ makeCcm dataLen nonce source length = .error e ∨
          makeChaCha20Poly1305 nonce = .error e ∨ GcmParams.make nonce aad length = .error e ∨
            CcmParams.make dataLen nonce aad length = .error e ∨
              ChaCha20Poly1305Params.make nonce aad = .error e →
        e = .token Rv.argumentsBad) ∧
      ((GcmParams.make nonce aad length).isOk = true → (length + 7).toNat = length.toNat + 7) ∧
      (bitCount nonce).toNat = min (8 * nonce.length) (UInt64.size - 1) := by
  refine ⟨fun _ => makeGcm_eq_ok_iff, fun _ => makeCcm_eq_ok_iff, fun _ => makeChaCha20Poly1305_eq_ok_iff,
    ?_, ?_, toNat_bitCount nonce⟩
  · rintro e (h | h | h | h | h | h)
    · exact guarded_error h
    · exact guarded_error h
    · exact guarded_error h
    · exact make_error h
    · exact make_error h
    · exact make_error h
  · intro accepted
    rw [GcmParams.make, isOk_make_iff] at accepted
    exact toNat_add_seven accepted

/-- A message may have an authenticator of five bytes, and a single call may not. -/
theorem not_makeCcm_iff :
    ¬ ((0 : Code).toNat ≤ 8 * (List.replicate 7 0 : Bytes).length →
      ((makeCcm 16 (List.replicate 7 0) ⟨0, 0⟩ 5).isOk = true ↔
        (CcmParams.make 16 (List.replicate 7 0) [] 5).isOk = true)) := by
  decide

end MessageParams

end TokenClient
