import TokenClient.Text.Encoding

/-!
# Texts as bytes and back

A text that a module gets comes back as it was: always in UTF-8, and in Latin-1 if the encoding has a byte
for each of its characters (`Encoding.decode_encode`). For UTF-8 the point is that a character is taken off
the front of its bytes whatever follows them (`Utf8.scan_encodeChar`), so the bounds that the first byte
sets for the second one have to admit the second byte of every character.
-/

namespace TokenClient

namespace Text.Utf8

/-- A character is a scalar value. -/
theorem scalar_toNat (c : Char) : c.toNat < 0xD800 ∨ 0xDFFF < c.toNat ∧ c.toNat < 0x110000 := c.valid

/-- A small number is the number of its byte. -/
theorem toNat_ofNat {n : Nat} (h : n < 256) : (UInt8.ofNat n).toNat = n :=
  UInt8.toNat_ofNat_of_lt' h

/-- A lead byte that announces no other is the whole character. -/
theorem continuation_zero (bits : Nat) (bytes : Bytes) : continuation bits 0 bytes = (some bits, bytes) := by
  cases bytes <;> rfl

/-- A byte that continues a character adds six bits to it. -/
theorem continuation_succ (bits count n : Nat) (bytes : Bytes) :
    continuation bits (count + 1) (UInt8.ofNat (0x80 + n % 64) :: bytes) =
      continuation (64 * bits + n % 64) count bytes := by
  have hb : (UInt8.ofNat (0x80 + n % 64)).toNat = 0x80 + n % 64 := toNat_ofNat (by omega)
  rw [continuation, hb, if_pos (by simp; omega), Nat.add_sub_cancel_left]

/-- What a first byte tells of a second one that is within its bounds. -/
theorem scan_of_lead {b n : Nat} {lead : Lead} (hb : b < 256) (opens : lead? b = some lead)
    (low : lead.low ≤ 0x80 + n % 64) (high : 0x80 + n % 64 ≤ lead.high) (bytes : Bytes) :
    scan (UInt8.ofNat b) (UInt8.ofNat (0x80 + n % 64) :: bytes) =
      continuation (64 * lead.bits + n % 64) lead.further bytes := by
  have hnot : ¬ b < 0x80 := by
    intro h
    rw [lead?, if_pos (by omega)] at opens
    cases opens
  have hsecond : (UInt8.ofNat (0x80 + n % 64)).toNat = 0x80 + n % 64 := toNat_ofNat (by omega)
  unfold scan
  simp only [toNat_ofNat hb, if_neg hnot, opens, hsecond]
  rw [if_pos (by simp [low, high]), Nat.add_sub_cancel_left]

/-- The first byte of a character of two bytes. -/
theorem lead?_two {n : Nat} (low : 0x80 ≤ n) (high : n < 0x800) :
    lead? (0xC0 + n / 64) = some ⟨n / 64, 0, 0x80, 0xBF⟩ := by
  rw [lead?, if_neg (by omega), if_pos (by omega), Nat.add_sub_cancel_left]

/-- The first byte of a character of three bytes keeps room for its second one. -/
theorem lead?_three {n : Nat} (low : 0x800 ≤ n) (high : n < 0x10000)
    (scalar : n < 0xD800 ∨ 0xDFFF < n) :
    ∃ lead, lead? (0xE0 + n / 4096) = some lead ∧ lead.bits = n / 4096 ∧ lead.further = 1 ∧
      lead.low ≤ 0x80 + n / 64 % 64 ∧ 0x80 + n / 64 % 64 ≤ lead.high := by
  rw [lead?, if_neg (by omega), if_neg (by omega)]
  by_cases hfirst : 0xE0 + n / 4096 = 0xE0
  · refine ⟨_, if_pos hfirst, ?_, rfl, ?_, ?_⟩ <;> simp only <;> omega
  · rw [if_neg hfirst]
    by_cases hsurrogate : 0xE0 + n / 4096 = 0xED
    · refine ⟨_, if_pos hsurrogate, ?_, rfl, ?_, ?_⟩ <;> simp only <;> omega
    · rw [if_neg hsurrogate, if_pos (by omega), Nat.add_sub_cancel_left]
      refine ⟨_, rfl, rfl, rfl, ?_, ?_⟩ <;> simp only <;> omega

/-- The first byte of a character of four bytes keeps room for its second one. -/
theorem lead?_four {n : Nat} (low : 0x10000 ≤ n) (high : n < 0x110000) :
    ∃ lead, lead? (0xF0 + n / 262144) = some lead ∧ lead.bits = n / 262144 ∧ lead.further = 2 ∧
      lead.low ≤ 0x80 + n / 4096 % 64 ∧ 0x80 + n / 4096 % 64 ≤ lead.high := by
  rw [lead?, if_neg (by omega), if_neg (by omega), if_neg (by omega), if_neg (by omega),
    if_neg (by omega)]
  by_cases hfirst : 0xF0 + n / 262144 = 0xF0
  · refine ⟨_, if_pos hfirst, ?_, rfl, ?_, ?_⟩ <;> simp only <;> omega
  · rw [if_neg hfirst]
    by_cases hmiddle : 0xF0 + n / 262144 < 0xF4
    · rw [if_pos hmiddle, Nat.add_sub_cancel_left]
      refine ⟨_, rfl, rfl, rfl, ?_, ?_⟩ <;> simp only <;> omega
    · rw [if_neg hmiddle, if_pos (by omega)]
      refine ⟨_, rfl, ?_, rfl, ?_, ?_⟩ <;> simp only <;> omega

/-- A character is taken off the front of its bytes, whatever follows. -/
theorem scan_encodeChar (c : Char) (rest : Bytes) :
    ∃ b tail, encodeChar c = b :: tail ∧ scan b (tail ++ rest) = (some c.toNat, rest) := by
  have hscalar := scalar_toNat c
  rw [encodeChar]
  generalize c.toNat = n at hscalar
  by_cases hone : n < 0x80
  · refine ⟨_, _, if_pos hone, ?_⟩
    unfold scan
    rw [toNat_ofNat (by omega), if_pos hone]
    rfl
  rw [if_neg hone]
  by_cases htwo : n < 0x800
  · refine ⟨_, _, if_pos htwo, ?_⟩
    rw [List.cons_append, scan_of_lead (by omega) (lead?_two (by omega) htwo) (by simp) (by simp; omega)]
    rw [continuation_zero, List.nil_append, Nat.div_add_mod]
  rw [if_neg htwo]
  by_cases hthree : n < 0x10000
  · obtain ⟨lead, opens, hbits, hfurther, hlow, hhigh⟩ :=
      lead?_three (by omega) hthree (hscalar.imp_right And.left)
    refine ⟨_, _, if_pos hthree, ?_⟩
    rw [List.cons_append, scan_of_lead (by omega) opens hlow hhigh, hbits, hfurther, List.cons_append,
      continuation_succ, continuation_zero, List.nil_append]
    congr 2
    omega
  · obtain ⟨lead, opens, hbits, hfurther, hlow, hhigh⟩ :=
      lead?_four (show 0x10000 ≤ n by omega) (by omega)
    refine ⟨_, _, if_neg hthree, ?_⟩
    rw [List.cons_append, scan_of_lead (by omega) opens hlow hhigh, hbits, hfurther, List.cons_append,
      continuation_succ, List.cons_append, continuation_succ, continuation_zero, List.nil_append]
    congr 2
    omega

/-- The bytes of a text start with those of its first character. -/
theorem scan_encode (c : Char) (cs : List Char) :
    ∃ b bytes, encode (c :: cs) = b :: bytes ∧ scan b bytes = (some c.toNat, encode cs) := by
  obtain ⟨b, tail, hchar, hscan⟩ := scan_encodeChar c (encode cs)
  refine ⟨b, tail ++ encode cs, ?_, hscan⟩
  rw [encode, List.flatMap_cons, hchar]
  rfl

/-- A text is read back from its bytes. -/
theorem decodeLossy_encode (cs : List Char) : decodeLossy (encode cs) = cs := by
  induction cs with
  | nil => rw [encode, List.flatMap_nil, decodeLossy]
  | cons c cs ih =>
    obtain ⟨b, bytes, hencode, hscan⟩ := scan_encode c cs
    rw [hencode, decodeLossy, hscan, ih]
    simp only [Char.ofNat_toNat]

/-- The bytes of a text are well-formed. -/
theorem decode?_encode (cs : List Char) : decode? (encode cs) = some cs := by
  induction cs with
  | nil => rw [encode, List.flatMap_nil, decode?]
  | cons c cs ih =>
    obtain ⟨b, bytes, hencode, hscan⟩ := scan_encode c cs
    rw [hencode, decode?, hscan, ih]
    simp only [Option.bind_some, Option.map_some, Char.ofNat_toNat]

end Text.Utf8

namespace Encoding

/-- Whether an encoding has bytes of its own for every character of a text. -/
def Fits : Encoding → String → Prop
  | utf8, _ => True
  | latin1, text => ∀ c ∈ text.toList, c.toNat ≤ 0xFF

/-- A text that fits the encoding is read back from its bytes. -/
theorem decode_encode {encoding : Encoding} {text : String} (fits : encoding.Fits text) :
    encoding.decode (encoding.encode text) = text := by
  cases encoding with
  | utf8 => rw [encode, decode, Text.Utf8.decodeLossy_encode, String.ofList_toList]
  | latin1 =>
    have hbyte : ∀ c ∈ text.toList, Char.ofNat (latin1Byte c).toNat = c := by
      intro c hmem
      have hlow : c.toNat < 256 := Nat.lt_succ_of_le (fits c hmem)
      rw [latin1Byte, if_pos hlow, Text.Utf8.toNat_ofNat hlow, Char.ofNat_toNat]
    have hlist : (text.toList.map latin1Byte).map (fun b => Char.ofNat b.toNat) = text.toList := by
      rw [List.map_map]
      exact (List.map_congr_left hbyte).trans (List.map_id' _)
    rw [encode, decode, hlist, String.ofList_toList]

/-- What is read fits the encoding. -/
theorem fits_decode (encoding : Encoding) (bytes : Bytes) : encoding.Fits (encoding.decode bytes) := by
  cases encoding with
  | utf8 => trivial
  | latin1 =>
    intro c hmem
    rw [decode, String.toList_ofList] at hmem
    obtain ⟨b, -, rfl⟩ := List.mem_map.1 hmem
    have hb : b.toNat < 256 := b.toNat_lt
    have hvalid : b.toNat.isValidChar := .inl (by omega)
    have hchar : (Char.ofNat b.toNat).toNat = b.toNat := by
      rw [Char.ofNat, dif_pos hvalid]
      rfl
    omega

end Encoding

end TokenClient
