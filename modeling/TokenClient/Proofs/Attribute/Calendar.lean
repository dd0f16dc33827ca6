import Mathlib.Data.List.Induction
import Mathlib.Data.Nat.Digits.Defs
import Mathlib.Tactic.IntervalCases
import TokenClient.Proofs.Attribute.Grammar

/-!
# Dates and the calendar

Bytes are read as one of three things: fillers alone say that there is no date, eight digits that write a day of the
Gregorian calendar (`Date.Writes`, `IsDayOf`) are that date, and all else is an invalid value. A date is written with
digits of fixed widths, so it is read back from what it writes, and nothing else is read as that date.

The reading counts in words of sixteen and of eight bits. `Date.ofBytesInWords?` does, and gives up where a number
leaves its word; it never gives up (`Date.ofBytesInWords?_eq`), because digits are checked first and no more than four
of them are counted together.

Digits of one width are in the order of the numbers that they write (`Date.compare_decimalBytes`). The year comes first
and the day last, so bytes and displayed texts are in the order of the dates.
-/

namespace TokenClient

/-! ## The calendar -/

/-- Every fourth year is a leap year, but among the full centuries every fourth only. -/
def IsLeap (year : Nat) : Prop := 4 ∣ year ∧ (100 ∣ year → 400 ∣ year)

instance (year : Nat) : Decidable (IsLeap year) := inferInstanceAs (Decidable (_ ∧ (_ → _)))

/-- How many days the twelve months of a year have. -/
def monthLengths (year : Nat) : List Nat :=
  [31, if IsLeap year then 29 else 28, 31, 30, 31, 30, 31, 31, 30, 31, 30, 31]

/-- The year has the day. -/
def IsDayOf (year month day : Nat) : Prop :=
  1 ≤ month ∧ 1 ≤ day ∧ ∃ length, (monthLengths year)[month - 1]? = some length ∧ day ≤ length

/-- The rule of the program and that of the calendar name the same leap years. -/
private theorem leapRule_iff (year : Nat) : year % 4 = 0 ∧ (year % 100 ≠ 0 ∨ year % 400 = 0) ↔ IsLeap year := by
  rw [IsLeap, Nat.dvd_iff_mod_eq_zero, Nat.dvd_iff_mod_eq_zero, Nat.dvd_iff_mod_eq_zero]
  exact and_congr_right fun _ => imp_iff_not_or.symm

/-- The list of month lengths agrees with the calendar. -/
private theorem getElem?_monthLengths {year month : Nat} (first : 1 ≤ month) (last : month ≤ 12) :
    (monthLengths year)[month - 1]? = some (daysInMonth year month) := by
  have hleap : (if year % 4 = 0 ∧ (year % 100 ≠ 0 ∨ year % 400 = 0) then 29 else 28) =
      if IsLeap year then 29 else 28 := if_congr (leapRule_iff year) rfl rfl
  rw [daysInMonth, hleap]
  interval_cases month <;> rfl

/-- The dates that there are, are the days of the years that have four digits. -/
theorem isDate_iff {year month day : Nat} : IsDate year month day ↔ year < 10 ^ 4 ∧ IsDayOf year month day := by
  constructor
  · rintro ⟨hyear, hfirst, hlast, hday, hlength⟩
    exact ⟨Nat.lt_succ_of_le hyear, hfirst, hday, _, getElem?_monthLengths hfirst hlast, hlength⟩
  · rintro ⟨hyear, hfirst, hday, length, hlength, hle⟩
    have hlast : month ≤ 12 := by
      obtain ⟨hlt, -⟩ := List.getElem?_eq_some_iff.1 hlength
      have hcount : (monthLengths year).length = 12 := rfl
      omega
    rw [getElem?_monthLengths hfirst hlast] at hlength
    cases hlength
    exact ⟨Nat.le_of_lt_succ hyear, hfirst, hlast, hday, hle⟩

namespace Date

variable {bytes : Bytes} {date : Date} {year month day : Nat}

/-- The numbers a date is made of are exactly those of a day of the calendar. -/
theorem exists_make_iff : (∃ date, make year month day = .ok date) ↔ IsDate year month day := by
  unfold make
  split
  next valid => exact iff_of_true ⟨_, rfl⟩ valid
  next invalid =>
    refine iff_of_false ?_ invalid
    rintro ⟨date, hdate⟩
    cases hdate

/-! ## What digits write -/

private theorem isDigit_iff {b : UInt8} : isDigit b = true ↔ 0x30 ≤ b.toNat ∧ b.toNat ≤ 0x39 := by
  rw [isDigit, Bool.and_eq_true, decide_eq_true_eq, decide_eq_true_eq]

/-- The number to the base ten whose digits these are, the first one being the highest. -/
def valueOf (digits : Bytes) : Nat := Nat.ofDigits 10 (digits.reverse.map fun b => b.toNat - 0x30)

/-- Eight bytes write a year, a month and a day, with four, two and two digits. -/
inductive Writes : Bytes → Nat → Nat → Nat → Prop
  | digits {years months days : Bytes} (four : years.length = 4) (two : months.length = 2) (two' : days.length = 2)
      (digits : ∀ b ∈ years ++ (months ++ days), 0x30 ≤ b.toNat ∧ b.toNat ≤ 0x39) :
      Writes (years ++ (months ++ days)) (valueOf years) (valueOf months) (valueOf days)

/-- Reading digits from the front, one at a time, gives their value by places. -/
private theorem decimalNumber_eq_valueOf (bytes : Bytes) : decimalNumber bytes = valueOf bytes := by
  induction bytes using List.reverseRecOn with
  | nil => rfl
  | append_singleton bytes b ih =>
    rw [decimalNumber_concat, ih, valueOf, valueOf, List.reverse_concat, List.map_cons, Nat.ofDigits_cons,
      Nat.add_comm]

/-- Digits of the right number are written again from their value. -/
private theorem decimalBytes_valueOf {width : Nat} (length : bytes.length = width)
    (digits : ∀ b ∈ bytes, isDigit b = true) :
    decimalBytes width (valueOf bytes) = bytes := by
  rw [← decimalNumber_eq_valueOf, decimalBytes_decimalNumber length digits]

/-- A number that fits the width is the value of its digits. -/
private theorem valueOf_decimalBytes {width n : Nat} (fits : n < 10 ^ width) : valueOf (decimalBytes width n) = n := by
  rw [← decimalNumber_eq_valueOf, decimalNumber_decimalBytes, Nat.mod_eq_of_lt fits]

private theorem valueOf_lt (digits : ∀ b ∈ bytes, isDigit b = true) : valueOf bytes < 10 ^ bytes.length := by
  rw [← decimalBytes_valueOf rfl digits, ← decimalNumber_eq_valueOf, decimalNumber_decimalBytes, length_decimalBytes]
  exact Nat.mod_lt _ (Nat.pow_pos (by decide))

/-- The numbers of a date have no more digits than it writes. -/
theorem lt_of_date (date : Date) : date.year < 10 ^ 4 ∧ date.month < 10 ^ 2 ∧ date.day < 10 ^ 2 := by
  have hdays := daysInMonth_le date.year date.month
  obtain ⟨hyear, -, hmonth, -, hday⟩ := date.valid
  omega

/-- A date is written as its year, month and day in decimal digits. -/
theorem writes_toBytes (date : Date) : Writes date.toBytes date.year date.month date.day := by
  obtain ⟨hyear, hmonth, hday⟩ := lt_of_date date
  have hwrites := Writes.digits (length_decimalBytes 4 date.year) (length_decimalBytes 2 date.month)
    (length_decimalBytes 2 date.day) fun b hb => by
      rw [List.mem_append, List.mem_append] at hb
      rcases hb with hb | hb | hb <;> exact isDigit_iff.1 (isDigit_of_mem_decimalBytes hb)
  rwa [valueOf_decimalBytes hyear, valueOf_decimalBytes hmonth, valueOf_decimalBytes hday, ← toBytes_eq] at hwrites

/-- What writes the numbers of a date is what the date writes. -/
theorem Writes.eq_toBytes (writes : Writes bytes year month day) (hyear : date.year = year)
    (hmonth : date.month = month) (hday : date.day = day) : bytes = date.toBytes := by
  obtain ⟨four, two, two', digits⟩ := writes
  rw [toBytes_eq, hyear, hmonth, hday]
  rw [decimalBytes_valueOf four fun b hb => isDigit_iff.2 (digits b (by simp [hb])),
    decimalBytes_valueOf two fun b hb => isDigit_iff.2 (digits b (by simp [hb])),
    decimalBytes_valueOf two' fun b hb => isDigit_iff.2 (digits b (by simp [hb]))]

private theorem Writes.year_lt (writes : Writes bytes year month day) : year < 10 ^ 4 := by
  obtain ⟨four, -, -, digits⟩ := writes
  rw [← four]
  exact valueOf_lt fun b hb => isDigit_iff.2 (digits b (List.mem_append_left _ hb))

/-! ## What is read -/

/-- Bytes are read as the empty date iff they are digits `0`, blanks and zero bytes only. -/
theorem ofBytes_eq_none_iff : ofBytes bytes = .ok none ↔ ∀ b ∈ bytes, b = 0x30 ∨ b = 0x20 ∨ b = 0 := by
  have hfiller : bytes.all isFiller = true ↔ ∀ b ∈ bytes, b = 0x30 ∨ b = 0x20 ∨ b = 0 := by
    simp [isFiller, or_assoc]
  rw [← hfiller]
  exact ⟨all_isFiller_of_ofBytes, fun h => if_pos h⟩

/-- Bytes are read as a date iff they write its year, month and day. -/
theorem ofBytes_eq_some_iff : ofBytes bytes = .ok (some date) ↔ Writes bytes date.year date.month date.day := by
  constructor
  · intro h
    rw [eq_toBytes_of_ofBytes h]
    exact writes_toBytes date
  · intro writes
    rw [writes.eq_toBytes rfl rfl rfl, ofBytes_toBytes]

/-- A date is read exactly if some day of the calendar is written. -/
theorem exists_ofBytes_iff :
    (∃ date, ofBytes bytes = .ok (some date)) ↔
      ∃ year month day, Writes bytes year month day ∧ IsDayOf year month day := by
  constructor
  · rintro ⟨date, h⟩
    exact ⟨_, _, _, ofBytes_eq_some_iff.1 h, (isDate_iff.1 date.valid).2⟩
  · rintro ⟨year, month, day, writes, hday⟩
    exact ⟨⟨year, month, day, isDate_iff.2 ⟨writes.year_lt, hday⟩⟩, ofBytes_eq_some_iff.2 writes⟩

/-- Bytes are refused iff they are neither the empty date nor eight digits of a day that exists, and always with the
same code. -/
theorem ofBytes_eq_error_iff {e : Error} :
    ofBytes bytes = .error e ↔
      e = .token Rv.attributeValueInvalid ∧ (∃ b ∈ bytes, b ≠ 0x30 ∧ b ≠ 0x20 ∧ b ≠ 0) ∧
        ¬ ∃ year month day, Writes bytes year month day ∧ IsDayOf year month day := by
  have hfilled : (∃ b ∈ bytes, b ≠ 0x30 ∧ b ≠ 0x20 ∧ b ≠ 0) ↔ ¬ ofBytes bytes = .ok none := by
    rw [ofBytes_eq_none_iff]
    push Not
    rfl
  rw [hfilled, ← exists_ofBytes_iff]
  constructor
  · intro h
    exact ⟨ofBytes_error h, by simp [h], by simp [h]⟩
  · rintro ⟨rfl, hnone, hsome⟩
    cases h : ofBytes bytes with
    | error e => rw [ofBytes_error h]
    | ok date? =>
      cases date? with
      | none => exact absurd h hnone
      | some date => exact absurd ⟨date, h⟩ hsome

/-! ## Counting in words -/

/-- One more digit, as words count it: the byte is not below the zero digit, and the number stays in sixteen bits, as
then its product with ten does. -/
def step? (n : UInt16) (b : UInt8) : Option UInt16 :=
  if 0x30 ≤ b.toNat ∧ 10 * n.toNat + (b.toNat - 0x30) < UInt16.size then some (10 * n + (b - 0x30).toUInt16)
  else none

/-- The number that digits write, in sixteen bits. -/
def word? (bytes : Bytes) : Option UInt16 := bytes.foldlM step? 0

/-- The number that digits write, in eight bits. -/
def byte? (bytes : Bytes) : Option UInt8 :=
  (word? bytes).bind fun n => if n.toNat < UInt8.size then some n.toUInt8 else none

/-- The reading of a date as words count it. There is none if a number leaves its word on the way. -/
def ofBytesInWords? (bytes : Bytes) : Option (Except Error (Option Date)) :=
  if bytes.all isFiller then some (.ok none)
  else if bytes.length = 8 ∧ bytes.all isDigit then do
    let year ← word? (bytes.take 4)
    let month ← byte? ((bytes.drop 4).take 2)
    let day ← byte? (bytes.drop 6)
    return (make year.toNat month.toNat day.toNat).map some
  else some (.error (.token Rv.attributeValueInvalid))

/-- A step that is counted adds one digit. -/
theorem toNat_step {n word : UInt16} {b : UInt8} (h : step? n b = some word) :
    word.toNat = 10 * n.toNat + (b.toNat - 0x30) := by
  unfold step? at h
  split at h
  next hstep =>
    cases h
    obtain ⟨hzero, hfits⟩ := hstep
    have hten : (10 : UInt16).toNat = 10 := rfl
    have hdigit : (b - 0x30).toNat = b.toNat - 0x30 := UInt8.toNat_sub_of_le _ _ (UInt8.le_iff_toNat_le.2 hzero)
    rw [UInt16.toNat_add, UInt16.toNat_mul, UInt8.toNat_toUInt16, hdigit, hten]
    rw [UInt16.size] at hfits
    omega
  next => cases h

/-- Four digits are counted in sixteen bits. -/
theorem exists_word (digits : ∀ b ∈ bytes, isDigit b = true) (length : bytes.length ≤ 4) :
    ∃ word, word? bytes = some word ∧ word.toNat = decimalNumber bytes := by
  induction bytes using List.reverseRecOn with
  | nil => exact ⟨0, rfl, rfl⟩
  | append_singleton bytes b ih =>
    have hlt := valueOf_lt digits
    rw [List.length_append, List.length_singleton] at length hlt
    have hbound : 10 ^ (bytes.length + 1) ≤ 10 ^ 4 := Nat.pow_le_pow_right (by decide) length
    obtain ⟨n, hn, hvalue⟩ := ih (fun c hc => digits c (List.mem_append_left _ hc)) (by omega)
    have hzero : 0x30 ≤ b.toNat := (isDigit_iff.1 (digits b (by simp))).1
    rw [← decimalNumber_eq_valueOf, decimalNumber_concat, ← hvalue] at hlt
    have hfits : 10 * n.toNat + (b.toNat - 0x30) < UInt16.size := by
      rw [UInt16.size]
      omega
    have hstep : step? n b = some (10 * n + (b - 0x30).toUInt16) := if_pos ⟨hzero, hfits⟩
    refine ⟨_, ?_, (toNat_step hstep).trans ?_⟩
    · rw [word?, List.foldlM_append, ← word?, hn]
      simp [hstep]
    · rw [decimalNumber_concat, hvalue]

/-- Two digits are counted in eight bits. -/
theorem exists_byte (digits : ∀ b ∈ bytes, isDigit b = true) (length : bytes.length ≤ 2) :
    ∃ byte, byte? bytes = some byte ∧ byte.toNat = decimalNumber bytes := by
  obtain ⟨word, hword, hvalue⟩ := exists_word digits (by omega)
  have hlt := valueOf_lt digits
  have hbound : 10 ^ bytes.length ≤ 10 ^ 2 := Nat.pow_le_pow_right (by decide) length
  rw [← decimalNumber_eq_valueOf, ← hvalue] at hlt
  have hfits : word.toNat < UInt8.size := by
    rw [UInt8.size]
    omega
  refine ⟨word.toUInt8, ?_, ?_⟩
  · rw [byte?, hword, Option.bind_some, if_pos hfits]
  · rw [UInt16.toNat_toUInt8, ← hvalue]
    exact Nat.mod_eq_of_lt hfits

/-- No number leaves its word. -/
theorem ofBytesInWords?_eq (bytes : Bytes) : ofBytesInWords? bytes = some (ofBytes bytes) := by
  unfold ofBytesInWords? ofBytes
  split
  next => rfl
  next =>
    split
    next hdigits =>
      obtain ⟨hlength, hall⟩ := hdigits
      rw [List.all_eq_true] at hall
      have hyears : ∀ b ∈ bytes.take 4, isDigit b = true := fun b hb => hall b (List.mem_of_mem_take hb)
      have hmonths : ∀ b ∈ (bytes.drop 4).take 2, isDigit b = true := fun b hb =>
        hall b (List.mem_of_mem_drop (List.mem_of_mem_take hb))
      have hdays : ∀ b ∈ bytes.drop 6, isDigit b = true := fun b hb => hall b (List.mem_of_mem_drop hb)
      obtain ⟨year, hyear, hyear'⟩ := exists_word hyears (by simp)
      obtain ⟨month, hmonth, hmonth'⟩ := exists_byte hmonths (by simp)
      obtain ⟨day, hday, hday'⟩ := exists_byte hdays (by simp [hlength])
      rw [hyear, hmonth, hday, ← hyear', ← hmonth', ← hday']
      rfl
    next => rfl

/-! ## Order -/

/-- Bytes are ordered by their numbers. -/
private theorem compare_uint8 (b c : UInt8) : compare b c = compare b.toNat c.toNat := by
  show compareOfLessAndEq b c = _
  rw [Nat.compare_eq_ite_lt]
  simp only [compareOfLessAndEq, UInt8.lt_iff_toNat_lt, ← UInt8.toNat_inj]
  split
  · rfl
  · split
    · rw [if_neg (by omega)]
    · rw [if_pos (by omega)]

/-- Byte strings are compared by their first parts if these have one length, and then by the rest. -/
theorem compare_append {first first' : Bytes} (length : first.length = first'.length) (rest rest' : Bytes) :
    compare (first ++ rest) (first' ++ rest') = (compare first first').then (compare rest rest') := by
  induction first generalizing first' with
  | nil =>
    obtain rfl := List.length_eq_zero_iff.1 length.symm
    rfl
  | cons b first ih =>
    obtain ⟨b', first', rfl⟩ := List.exists_cons_of_length_eq_add_one length.symm
    rw [List.cons_append, List.cons_append, List.compare_cons_cons, List.compare_cons_cons,
      ih (Nat.succ.inj length), Ordering.then_assoc]

/-- Numbers are compared by their last digits if they agree before these. -/
theorem compare_div_mod (n m : Nat) :
    compare n m = (compare (n / 10) (m / 10)).then (compare (n % 10) (m % 10)) := by
  rcases Nat.lt_trichotomy (n / 10) (m / 10) with hlt | heq | hgt
  · rw [Nat.compare_eq_lt.2 hlt, Nat.compare_eq_lt.2 (by omega)]
    rfl
  · rw [Nat.compare_eq_eq.2 heq]
    show compare n m = compare (n % 10) (m % 10)
    rcases Nat.lt_trichotomy (n % 10) (m % 10) with hlt | heq' | hgt
    · rw [Nat.compare_eq_lt.2 hlt, Nat.compare_eq_lt.2 (by omega)]
    · rw [Nat.compare_eq_eq.2 heq', Nat.compare_eq_eq.2 (by omega)]
    · rw [Nat.compare_eq_gt.2 hgt, Nat.compare_eq_gt.2 (by omega)]
  · rw [Nat.compare_eq_gt.2 hgt, Nat.compare_eq_gt.2 (by omega)]
    rfl

/-- Digits of one width are in the order of the numbers that they write. -/
theorem compare_decimalBytes {width n m : Nat} (hn : n < 10 ^ width) (hm : m < 10 ^ width) :
    compare (decimalBytes width n) (decimalBytes width m) = compare n m := by
  induction width generalizing n m with
  | zero =>
    obtain rfl : n = 0 := by simpa using hn
    obtain rfl : m = 0 := by simpa using hm
    rfl
  | succ width ih =>
    rw [Nat.pow_succ] at hn hm
    have hdigit (a b : Nat) : compare (0x30 + a) (0x30 + b) = compare a b := by simp [Nat.compare_eq_ite_lt]
    rw [decimalBytes_succ, decimalBytes_succ, compare_append (by simp), ih (by omega) (by omega),
      List.compare_cons_cons, List.compare_nil_nil, Ordering.then_eq, compare_uint8, toNat_decimal, toNat_decimal,
      hdigit, ← compare_div_mod]

/-- Dates are ordered as their bytes are. -/
theorem compare_toBytes (date other : Date) : compare date.toBytes other.toBytes = compare date other := by
  obtain ⟨hyear, hmonth, hday⟩ := lt_of_date date
  obtain ⟨hyear', hmonth', hday'⟩ := lt_of_date other
  rw [toBytes_eq, toBytes_eq, compare_append (by simp), compare_append (by simp), compare_decimalBytes hyear hyear',
    compare_decimalBytes hmonth hmonth', compare_decimalBytes hday hday']
  rfl

/-- Digits are single bytes in UTF-8. -/
theorem encode_decimals (width n : Nat) : Text.Utf8.encode (decimals width n) = decimalBytes width n := by
  induction width generalizing n with
  | zero => rfl
  | succ width ih =>
    have hchar : Text.Utf8.encodeChar (Char.ofNat (0x30 + n % 10)) = [UInt8.ofNat (0x30 + n % 10)] := by
      rw [Text.Utf8.encodeChar, toNat_decimalChar, if_pos (by omega)]
    rw [decimals_succ, decimalBytes_succ, Text.Utf8.encode, List.flatMap_append, ← Text.Utf8.encode, ih,
      List.flatMap_singleton, hchar]

/-- The displayed text has a hyphen between the three parts. -/
theorem encode_display (date : Date) :
    Encoding.utf8.encode date.display =
      decimalBytes 4 date.year ++ ([0x2D] ++ (decimalBytes 2 date.month ++ ([0x2D] ++ decimalBytes 2 date.day))) := by
  have hhyphen : Text.Utf8.encodeChar '-' = [0x2D] := rfl
  rw [Encoding.encode, display, String.toList_ofList, ← encode_decimals, ← encode_decimals, ← encode_decimals]
  simp only [Text.Utf8.encode, List.flatMap_append, List.flatMap_cons, hhyphen, List.append_assoc, List.cons_append]

/-- Dates are ordered as their texts are. -/
theorem compare_display (date other : Date) :
    compare (Encoding.utf8.encode date.display) (Encoding.utf8.encode other.display) = compare date other := by
  obtain ⟨hyear, hmonth, hday⟩ := lt_of_date date
  obtain ⟨hyear', hmonth', hday'⟩ := lt_of_date other
  have hhyphen : compare ([0x2D] : Bytes) [0x2D] = .eq := rfl
  rw [encode_display, encode_display, compare_append (by simp), compare_append rfl, compare_append (by simp),
    compare_append rfl, hhyphen, Ordering.eq_then, Ordering.eq_then, compare_decimalBytes hyear hyear',
    compare_decimalBytes hmonth hmonth', compare_decimalBytes hday hday']
  rfl

/-- Every byte string says that there is no date, or writes one of the calendar, or is an invalid value; it is read
without leaving the words that count it. There is a date for each day of the years of four digits. Dates and the bytes
that are read as such turn into each other, and bytes and displayed texts are in the order of the dates. -/
theorem codec_exact :
    (∀ bytes, ofBytes bytes = .ok none ↔ ∀ b ∈ bytes, b = 0x30 ∨ b = 0x20 ∨ b = 0) ∧
    (∀ bytes date, ofBytes bytes = .ok (some date) ↔ Writes bytes date.year date.month date.day) ∧
    (∀ bytes, (∃ date, ofBytes bytes = .ok (some date)) ↔
      ∃ year month day, Writes bytes year month day ∧ IsDayOf year month day) ∧
    (∀ bytes e, ofBytes bytes = .error e ↔
      e = .token Rv.attributeValueInvalid ∧ (∃ b ∈ bytes, b ≠ 0x30 ∧ b ≠ 0x20 ∧ b ≠ 0) ∧
        ¬ ∃ year month day, Writes bytes year month day ∧ IsDayOf year month day) ∧
    (∀ bytes, ofBytesInWords? bytes = some (ofBytes bytes)) ∧
    (∀ year month day, (∃ date, make year month day = .ok date) ↔ year ≤ 9999 ∧ IsDayOf year month day) ∧
    (∀ date : Date, ofBytes date.toBytes = .ok (some date)) ∧
    (∀ bytes date, ofBytes bytes = .ok (some date) → date.toBytes = bytes) ∧
    (∀ date other : Date, compare date.toBytes other.toBytes = compare date other ∧
      compare (Encoding.utf8.encode date.display) (Encoding.utf8.encode other.display) = compare date other) := by
  refine ⟨fun bytes => ofBytes_eq_none_iff, fun bytes date => ofBytes_eq_some_iff, fun bytes => exists_ofBytes_iff,
    fun bytes e => ofBytes_eq_error_iff, ofBytesInWords?_eq, ?_, ofBytes_toBytes, ?_, ?_⟩
  · intro year month day
    rw [exists_make_iff, isDate_iff]
    exact and_congr_left' Nat.lt_succ_iff
  · intro bytes date h
    exact (eq_toBytes_of_ofBytes h).symm
  · intro date other
    exact ⟨compare_toBytes date other, compare_display date other⟩

end Date

end TokenClient
