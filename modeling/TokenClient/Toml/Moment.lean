import TokenClient.Date
import TokenClient.Toml.Scan

/-!
# Dates and times in TOML

A moment is a date, a time of day, or a date with a time and perhaps an offset. Its canonical text has a
`T` between date and time, a fraction of at most nine digits without trailing zeros, and upper-case `Z`.
-/

namespace TokenClient.Toml.Moment

/-- A date. The days of the month are those of the calendar. -/
def date : Scan (List Char) := do
  let year ← Scan.field 4 0 9999
  Scan.char '-'
  let month ← Scan.field 2 1 12
  Scan.char '-'
  let day ← Scan.field 2 1 (daysInMonth year month)
  return Date.decimals 4 year ++ '-' :: Date.decimals 2 month ++ '-' :: Date.decimals 2 day

/-- The fraction of a second as it is kept: nine digits at most, no zeros at the end. -/
def fractionText (digits : List Char) : List Char :=
  match ((digits.take 9).reverse.dropWhile (· == '0')).reverse with
  | [] => []
  | kept => '.' :: kept

/-- A time of day, to the second at least; a leap second is allowed. -/
def time : Scan (List Char) := do
  let hour ← Scan.field 2 0 23
  Scan.char ':'
  let minute ← Scan.field 2 0 59
  Scan.char ':'
  let second ← Scan.field 2 0 60
  let fraction ←
    if (← Scan.peek) = some '.' then do
      let _ ← Scan.next
      let digits ← Scan.run Char.isDigit
      if digits.isEmpty then Scan.stop else pure digits
    else pure []
  return Date.decimals 2 hour ++ ':' :: Date.decimals 2 minute ++ ':' :: Date.decimals 2 second ++
    fractionText fraction

/-- The offset of a time, if there is one. An offset of nothing is always written with a plus sign. -/
def offset : Scan (List Char) := do
  match ← Scan.peek with
  | some 'Z' | some 'z' =>
    let _ ← Scan.next
    return ['Z']
  | some '+' | some '-' =>
    let sign ← Scan.next
    let hour ← Scan.field 2 0 23
    Scan.char ':'
    let minute ← Scan.field 2 0 59
    let sign := if hour = 0 ∧ minute = 0 then '+' else sign
    return sign :: Date.decimals 2 hour ++ ':' :: Date.decimals 2 minute
  | _ => return []

/-- The time after a date, if one follows. -/
def timeAfterDate : Scan (List Char) := do
  let mark ← Scan.next
  if mark = 'T' ∨ mark = 't' ∨ mark = ' ' then
    let time ← time
    let offset ← offset
    return 'T' :: time ++ offset
  else Scan.stop

/-- A date with or without a time. -/
def dated : Scan (List Char) := do
  let date ← date
  let time ← Scan.attempt timeAfterDate
  return date ++ time.getD []

/-- A moment in its canonical text. -/
def scan : Scan String := do
  match ← Scan.attempt dated with
  | some text => return String.ofList text
  | none => return String.ofList (← time)

end TokenClient.Toml.Moment
