import TokenClient.Error

/-!
# Dates

Calendar dates from the year 0 to 9999 as attributes hold them: eight digits `YYYYMMDD`. A byte string
made of zero digits, blanks and NUL bytes alone, the empty one among them, is the value "no date".
-/

namespace TokenClient

/-- The number of days of a month, by the Gregorian leap year rule. -/
def daysInMonth (year month : Nat) : Nat :=
  if month = 4 ∨ month = 6 ∨ month = 9 ∨ month = 11 then 30
  else if month = 2 then
    if year % 4 = 0 ∧ (year % 100 ≠ 0 ∨ year % 400 = 0) then 29 else 28
  else 31

/-- Whether a year, a month and a day name a date of the calendar. -/
def IsDate (year month day : Nat) : Prop :=
  year ≤ 9999 ∧ 1 ≤ month ∧ month ≤ 12 ∧ 1 ≤ day ∧ day ≤ daysInMonth year month

instance (year month day : Nat) : Decidable (IsDate year month day) := by
  unfold IsDate; infer_instance

/-- A calendar date. -/
structure Date where
  year : Nat
  month : Nat
  day : Nat
  valid : IsDate year month day
deriving DecidableEq, Repr

namespace Date

/-- The date of a year, a month and a day, if the calendar has it. -/
def make (year month day : Nat) : Except Error Date :=
  if h : IsDate year month day then .ok ⟨year, month, day, h⟩
  else .error (.token Rv.attributeValueInvalid)

/-- Dates are in the order of their years, then of their months, then of their days. -/
instance : Ord Date where
  compare date other :=
    (compare date.year other.year).then
      ((compare date.month other.month).then (compare date.day other.day))

/-- The last `width` decimal digits of a number. -/
def decimals (width n : Nat) : List Char :=
  (List.range width).map fun i => Char.ofNat (0x30 + n / Nat.pow 10 (width - 1 - i) % 10)

/-- The digits `YYYYMMDD`. -/
def digits (date : Date) : List Char :=
  decimals 4 date.year ++ decimals 2 date.month ++ decimals 2 date.day

/-- The date as an attribute holds it. -/
def toBytes (date : Date) : Bytes := date.digits.map fun c => UInt8.ofNat c.toNat

/-- The text `YYYY-MM-DD`. -/
def display (date : Date) : String :=
  String.ofList (decimals 4 date.year ++ '-' :: decimals 2 date.month ++ '-' :: decimals 2 date.day)

/-- Whether a byte is a decimal digit. -/
def isDigit (b : UInt8) : Bool := 0x30 ≤ b.toNat && b.toNat ≤ 0x39

/-- The number that decimal digits write. -/
def decimalNumber (bytes : Bytes) : Nat := bytes.foldl (fun n b => 10 * n + (b.toNat - 0x30)) 0

/-- Whether a byte may stand in the value "no date". -/
def isFiller (b : UInt8) : Bool := b == 0x30 || b == 0x20 || b == 0

/-- The date that a byte string holds, or none for the value "no date". -/
def ofBytes (bytes : Bytes) : Except Error (Option Date) :=
  if bytes.all isFiller then .ok none
  else if bytes.length = 8 ∧ bytes.all isDigit then
    (make (decimalNumber (bytes.take 4)) (decimalNumber ((bytes.drop 4).take 2))
      (decimalNumber (bytes.drop 6))).map some
  else .error (.token Rv.attributeValueInvalid)

end Date

end TokenClient
