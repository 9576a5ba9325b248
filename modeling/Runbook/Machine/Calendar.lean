import Runbook.Text.Number

/-!
# Dates

The days of the calendar as numbers, and the texts in which times are given.
-/

namespace Runbook.Machine.Calendar

/-- The number of seconds of a day. -/
def daySeconds : Nat := 86400

/-- The number of days from the beginning of 1970 to a day, which must not lie before. -/
def dayNumber (year month day : Nat) : Nat :=
  let year' := if month ≤ 2 then year - 1 else year
  let era := year' / 400
  let yearOfEra := year' % 400
  let monthFromMarch := (month + 9) % 12
  let dayOfYear := (153 * monthFromMarch + 2) / 5 + day - 1
  let dayOfEra := yearOfEra * 365 + yearOfEra / 4 - yearOfEra / 100 + dayOfYear
  era * 146097 + dayOfEra - 719468

/-- The year, the month and the day with a number. -/
def dayOf (number : Nat) : Nat × Nat × Nat :=
  let shifted := number + 719468
  let era := shifted / 146097
  let dayOfEra := shifted % 146097
  let yearOfEra := (dayOfEra - dayOfEra / 1460 + dayOfEra / 36524 - dayOfEra / 146096) / 365
  let dayOfYear := dayOfEra - (365 * yearOfEra + yearOfEra / 4 - yearOfEra / 100)
  let monthFromMarch := (5 * dayOfYear + 2) / 153
  let day := dayOfYear - (153 * monthFromMarch + 2) / 5 + 1
  let month := if monthFromMarch < 10 then monthFromMarch + 3 else monthFromMarch - 9
  let year := yearOfEra + era * 400 + (if month ≤ 2 then 1 else 0)
  (year, month, day)

/-- The names of the months. -/
def months : List String :=
  ["Jan", "Feb", "Mar", "Apr", "May", "Jun", "Jul", "Aug", "Sep", "Oct", "Nov", "Dec"]

/-- The seconds at a time of a day. -/
def secondsAt (year month day hour minute second : Nat) : Option Nat :=
  if year < 1970 || month = 0 || 12 < month || day = 0 || 31 < day || 23 < hour || 59 < minute
      || 60 < second then
    none
  else
    some (dayNumber year month day * daySeconds + hour * 3600 + minute * 60 + second)

/-- The numbers that signs separate, if a text consists of nothing else. -/
def numbers? (separators : List Char) (text : List Char) : Option (List Nat) :=
  let rec parts : List Char → List (List Char)
    | [] => [[]]
    | c :: rest =>
      match parts rest with
      | part :: others => if separators.contains c then [] :: part :: others else (c :: part) :: others
      | [] => []
  (parts text).mapM Text.natural?

/-- The seconds that a text gives: a day, a day and a time, or a number of seconds. -/
def read? (text : String) : Option Nat :=
  match text.toList with
  | '@' :: digits => Text.natural? digits
  | cs =>
    match numbers? ['-', ' ', 'T', ':'] (cs.filter (· != 'Z')) with
    | some [year, month, day] => secondsAt year month day 0 0 0
    | some [year, month, day, hour, minute] => secondsAt year month day hour minute 0
    | some [year, month, day, hour, minute, second] =>
      secondsAt year month day hour minute second
    | _ => none

/-- The seconds that the digits of a time stamp give, with the seconds behind a point. -/
def readStamp? (year : Nat) (text : String) : Option Nat := do
  let digits := text.toList.takeWhile Char.isDigit
  let second ←
    match text.toList.drop digits.length with
    | [] => some 0
    | ['.', tens, ones] => Text.natural? [tens, ones]
    | _ => none
  let pair (index : Nat) : Nat := Text.decimalValue ((digits.drop index).take 2)
  match digits.length with
  | 8 => secondsAt year (pair 0) (pair 2) (pair 4) (pair 6) second
  | 10 =>
    let short := pair 0
    let year := if short < 69 then 2000 + short else 1900 + short
    secondsAt year (pair 2) (pair 4) (pair 6) (pair 8) second
  | 12 => secondsAt (pair 0 * 100 + pair 2) (pair 4) (pair 6) (pair 8) (pair 10) second
  | _ => none

end Runbook.Machine.Calendar
