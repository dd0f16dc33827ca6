import Mathlib.Algebra.Group.Nat.Defs
import Mathlib.Data.List.Induction
import TokenClient.BigNat
import TokenClient.Date
import TokenClient.Word

/-!
# Words, big numbers and dates as bytes

What an attribute holds is read back from its bytes: a word from its eight bytes (`Word.ofBytes_toBytes`),
an array from those of its words (`Word.arrayOfBytes_arrayToBytes`), a natural number of any size from
its digits to the base 256 (`BigNat.ofBytes_toBytes`), and a date from its decimal digits
(`Date.ofBytes_toBytes`). A date is never taken for "no date", because its month is not zero.
-/

namespace TokenClient

namespace Word

@[simp]
private theorem length_digits (count n : Nat) : (digits count n).length = count := by
  induction count generalizing n with
  | zero => rfl
  | succ count ih => rw [digits, List.length_cons, ih]

/-- The lowest digits of a number write the number, as far as they go. -/
theorem number_digits (count n : Nat) : number (digits count n) = n % 256 ^ count := by
  induction count generalizing n with
  | zero => rw [digits, number, Nat.pow_zero, Nat.mod_one]
  | succ count ih =>
    have hdigit : (UInt8.ofNat (n % 256)).toNat = n % 256 :=
      UInt8.toNat_ofNat_of_lt' (Nat.mod_lt n (by decide))
    rw [digits, number, hdigit, ih, Nat.pow_succ', Nat.mod_mul]

/-- A word is written in as many bytes as it has. -/
@[simp]
theorem length_toBytes (word : Code) : (toBytes word).length = size := length_digits _ _

/-- No word is written as nothing. -/
theorem isEmpty_toBytes (word : Code) : (toBytes word).isEmpty = false := rfl

/-- The bytes of a word read back as its number. -/
theorem number_toBytes (word : Code) : number (toBytes word) = word.toNat := by
  rw [toBytes, number_digits, Nat.mod_eq_of_lt]
  exact word.toNat_lt

/-- A word is read back from its bytes. -/
theorem ofBytes_toBytes (word : Code) : ofBytes (toBytes word) = .ok word := by
  rw [ofBytes, length_toBytes, if_neg (by decide), number_toBytes, UInt64.ofNat_toNat]

/-- Every word of a list takes the same room. -/
theorem length_arrayToBytes (ws : List Code) : (arrayToBytes ws).length = size * ws.length := by
  induction ws with
  | nil => rfl
  | cons w ws ih =>
    rw [arrayToBytes, List.flatMap_cons, List.length_append, length_toBytes, ← arrayToBytes, ih,
      List.length_cons, Nat.mul_succ, Nat.add_comm]

/-- The words written are the words read. -/
private theorem words_arrayToBytes (ws : List Code) : words ws.length (arrayToBytes ws) = ws := by
  induction ws with
  | nil => rfl
  | cons w ws ih =>
    have hbytes : arrayToBytes (w :: ws) = toBytes w ++ arrayToBytes ws := List.flatMap_cons
    rw [hbytes, List.length_cons, words, List.take_left' (length_toBytes w),
      List.drop_left' (length_toBytes w), number_toBytes, UInt64.ofNat_toNat, ih]

/-- An array of words is read back from its bytes. -/
theorem arrayOfBytes_arrayToBytes (ws : List Code) : arrayOfBytes (arrayToBytes ws) = .ok ws := by
  have hsize : 0 < size := by decide
  rw [arrayOfBytes, length_arrayToBytes, if_pos (Nat.mul_mod_right size ws.length),
    Nat.mul_div_cancel_left ws.length hsize, words_arrayToBytes]

end Word

namespace BigNat

/-- A natural number is read back from its bytes. -/
theorem ofBytes_toBytes (n : Nat) : ofBytes (toBytes n) = n := by
  fun_induction toBytes n with
  | case1 n small =>
    show 256 * 0 + (UInt8.ofNat n).toNat = n
    rw [UInt8.toNat_ofNat_of_lt' small, Nat.mul_zero, Nat.zero_add]
  | case2 n large ih =>
    have hdigit : (UInt8.ofNat (n % 256)).toNat = n % 256 :=
      UInt8.toNat_ofNat_of_lt' (Nat.mod_lt n (by decide))
    rw [ofBytes, List.foldl_append, ← ofBytes, ih, List.foldl_cons, List.foldl_nil, hdigit,
      Nat.div_add_mod]

end BigNat

/-- No month is longer than 31 days. -/
theorem daysInMonth_le (year month : Nat) : daysInMonth year month ≤ 31 := by
  unfold daysInMonth
  repeat' split
  all_goals decide

namespace Date

/-- The bytes of the last decimal digits of a number. -/
def decimalBytes (width n : Nat) : Bytes := (decimals width n).map fun c => UInt8.ofNat c.toNat

/-- As many digits are written as are asked for. -/
@[simp]
theorem length_decimalBytes (width n : Nat) : (decimalBytes width n).length = width := by
  simp [decimalBytes, decimals]

/-- One digit more puts the last digit of the number at the end. -/
theorem decimals_succ (width n : Nat) :
    decimals (width + 1) n = decimals width (n / 10) ++ [Char.ofNat (0x30 + n % 10)] := by
  rw [decimals, List.range_succ, List.map_append, decimals]
  congr 1
  · refine List.map_congr_left fun i hmem => ?_
    have hi : i < width := List.mem_range.1 hmem
    have hwidth : width + 1 - 1 - i = width - 1 - i + 1 := by omega
    rw [hwidth, Nat.pow_eq, Nat.pow_eq, Nat.pow_succ', Nat.div_div_eq_div_mul]
  · simp

/-- The character of a digit. -/
theorem toNat_decimalChar (n : Nat) : (Char.ofNat (0x30 + n % 10)).toNat = 0x30 + n % 10 := by
  have hvalid : (0x30 + n % 10).isValidChar := .inl (by omega)
  rw [Char.ofNat, dif_pos hvalid]
  rfl

/-- The same of the digits as bytes. -/
theorem decimalBytes_succ (width n : Nat) :
    decimalBytes (width + 1) n = decimalBytes width (n / 10) ++ [UInt8.ofNat (0x30 + n % 10)] := by
  rw [decimalBytes, decimals_succ, List.map_append, ← decimalBytes, List.map_singleton, toNat_decimalChar]

/-- The byte of a digit. -/
theorem toNat_decimal (n : Nat) : (UInt8.ofNat (0x30 + n % 10)).toNat = 0x30 + n % 10 :=
  UInt8.toNat_ofNat_of_lt' (show 0x30 + n % 10 < 256 by omega)

/-- The last decimal digits of a number write the number, as far as they go. -/
theorem decimalNumber_decimalBytes (width n : Nat) :
    decimalNumber (decimalBytes width n) = n % 10 ^ width := by
  induction width generalizing n with
  | zero => rw [Nat.pow_zero, Nat.mod_one]; rfl
  | succ width ih =>
    rw [decimalBytes_succ, decimalNumber, List.foldl_append, ← decimalNumber, ih, List.foldl_cons,
      List.foldl_nil, toNat_decimal, Nat.add_sub_cancel_left, Nat.pow_succ', Nat.mod_mul, Nat.add_comm]

/-- Reading one digit more multiplies by ten and adds it. -/
theorem decimalNumber_concat (bytes : Bytes) (b : UInt8) :
    decimalNumber (bytes ++ [b]) = 10 * decimalNumber bytes + (b.toNat - 0x30) := by
  rw [decimalNumber, List.foldl_append, ← decimalNumber, List.foldl_cons, List.foldl_nil]

/-- Digits are those of the number that they write. -/
theorem decimalBytes_decimalNumber {width : Nat} {bytes : Bytes} (length : bytes.length = width)
    (digits : ∀ b ∈ bytes, isDigit b = true) : decimalBytes width (decimalNumber bytes) = bytes := by
  subst length
  induction bytes using List.reverseRecOn with
  | nil => rfl
  | append_singleton bytes b ih =>
    have hb : 0x30 ≤ b.toNat ∧ b.toNat ≤ 0x39 := by simpa [isDigit] using digits b (by simp)
    have hinit : (10 * decimalNumber bytes + (b.toNat - 0x30)) / 10 = decimalNumber bytes := by omega
    have hlast : 0x30 + (10 * decimalNumber bytes + (b.toNat - 0x30)) % 10 = b.toNat := by omega
    rw [List.length_append, List.length_singleton, decimalNumber_concat, decimalBytes_succ, hinit, hlast,
      ih fun c hc => digits c (List.mem_append_left _ hc), UInt8.ofNat_toNat]

/-- Nothing but digits is written. -/
theorem isDigit_of_mem_decimalBytes {width n : Nat} {b : UInt8} (h : b ∈ decimalBytes width n) :
    isDigit b = true := by
  induction width generalizing n with
  | zero => cases h
  | succ width ih =>
    rw [decimalBytes_succ, List.mem_append] at h
    rcases h with hfirst | hlast
    · exact ih hfirst
    · rw [List.mem_singleton.1 hlast, isDigit, toNat_decimal]
      simp
      omega

/-- Bytes of the value "no date" write no number but zero. -/
theorem decimalNumber_of_isFiller {bytes : Bytes} (h : ∀ b ∈ bytes, isFiller b = true) :
    decimalNumber bytes = 0 := by
  have hfiller : ∀ b, isFiller b = true → b.toNat - 0x30 = 0 := by
    intro b hb
    simp only [isFiller, Bool.or_eq_true, beq_iff_eq] at hb
    rcases hb with (rfl | rfl) | rfl <;> rfl
  induction bytes with
  | nil => rfl
  | cons b bytes ih =>
    rw [decimalNumber, List.foldl_cons, hfiller b (h b List.mem_cons_self)]
    exact ih fun b' hmem => h b' (List.mem_cons_of_mem _ hmem)

/-- A date is four digits of the year, two of the month and two of the day. -/
theorem toBytes_eq (date : Date) :
    date.toBytes = decimalBytes 4 date.year ++ (decimalBytes 2 date.month ++ decimalBytes 2 date.day) := by
  simp only [toBytes, digits, List.map_append, List.append_assoc, decimalBytes]

/-- A date is read back from its bytes. -/
theorem ofBytes_toBytes (date : Date) : ofBytes date.toBytes = .ok (some date) := by
  have hdays : daysInMonth date.year date.month ≤ 31 := daysInMonth_le _ _
  obtain ⟨hyear, hmonth, hmonth', -, hday⟩ := date.valid
  have hfirst : date.toBytes.take 4 = decimalBytes 4 date.year := by
    rw [toBytes_eq, List.take_left' (length_decimalBytes _ _)]
  have hmiddle : (date.toBytes.drop 4).take 2 = decimalBytes 2 date.month := by
    rw [toBytes_eq, List.drop_left' (length_decimalBytes _ _), List.take_left' (length_decimalBytes _ _)]
  have hlast : date.toBytes.drop 6 = decimalBytes 2 date.day := by
    rw [toBytes_eq, ← List.append_assoc]
    exact List.drop_left' (by simp)
  -- The month is not zero, so not all digits are.
  have hdate : ¬ date.toBytes.all isFiller = true := by
    intro hall
    have hzero : decimalNumber ((date.toBytes.drop 4).take 2) = 0 :=
      decimalNumber_of_isFiller fun b hmem =>
        List.all_eq_true.1 hall b (List.mem_of_mem_drop (List.mem_of_mem_take hmem))
    rw [hmiddle, decimalNumber_decimalBytes] at hzero
    omega
  have hdigits : date.toBytes.length = 8 ∧ date.toBytes.all isDigit = true := by
    constructor
    · simp [toBytes_eq]
    · rw [List.all_eq_true, toBytes_eq]
      intro b hmem
      rcases List.mem_append.1 hmem with h | h
      · exact isDigit_of_mem_decimalBytes h
      · rcases List.mem_append.1 h with h | h <;> exact isDigit_of_mem_decimalBytes h
  rw [ofBytes, if_neg hdate, if_pos hdigits, hfirst, hmiddle, hlast]
  simp only [decimalNumber_decimalBytes]
  rw [Nat.mod_eq_of_lt (by omega), Nat.mod_eq_of_lt (by omega), Nat.mod_eq_of_lt (by omega), make,
    dif_pos date.valid]
  rfl

end Date

end TokenClient
