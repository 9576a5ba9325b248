/-!
# Moments in time

Dates, times and their combinations, as TOML spells them. A date has to exist in the calendar, and
the seconds of a time may be left out.
-/

namespace Runbook.Toml.Moment

/-- The value of two decimal digits. -/
def two? (a b : Char) : Option Nat :=
  if a.isDigit && b.isDigit then
    some ((a.toNat - '0'.toNat) * 10 + (b.toNat - '0'.toNat))
  else
    none

/-- Whether a year has a 29th of February. -/
def isLeap (year : Nat) : Bool :=
  (year % 4 == 0 && year % 100 != 0) || year % 400 == 0

/-- The number of days in a month. -/
def daysIn (year month : Nat) : Nat :=
  if month = 2 then (if isLeap year then 29 else 28)
  else if [4, 6, 9, 11].contains month then 30
  else 31

/-- Whether a date exists. -/
def isDate (year month day : Nat) : Bool :=
  1 ≤ month && month ≤ 12 && 1 ≤ day && day ≤ daysIn year month

/-- The characters after a date. -/
def afterDate? : List Char → Option (List Char)
  | y1 :: y2 :: y3 :: y4 :: '-' :: m1 :: m2 :: '-' :: d1 :: d2 :: rest => do
    let century ← two? y1 y2
    let year ← two? y3 y4
    let month ← two? m1 m2
    let day ← two? d1 d2
    if isDate (century * 100 + year) month day then some rest else none
  | _ => none

/-- The characters after the fraction of a second, if there is one. -/
def afterFraction? : List Char → Option (List Char)
  | '.' :: c :: rest => if c.isDigit then some (rest.dropWhile Char.isDigit) else none
  | '.' :: [] => none
  | rest => some rest

/-- The characters after the seconds of a time, if there are any. -/
def afterSeconds? : List Char → Option (List Char)
  | ':' :: s1 :: s2 :: rest => do
    let second ← two? s1 s2
    if second ≤ 60 then afterFraction? rest else none
  | rest => some rest

/-- The characters after a time. -/
def afterTime? : List Char → Option (List Char)
  | h1 :: h2 :: ':' :: m1 :: m2 :: rest => do
    let hour ← two? h1 h2
    let minute ← two? m1 m2
    if hour ≤ 23 ∧ minute ≤ 59 then afterSeconds? rest else none
  | _ => none

/-- Whether characters are nothing or an offset from universal time. -/
def isOffset : List Char → Bool
  | [] => true
  | ['Z'] | ['z'] => true
  | [sign, h1, h2, ':', m1, m2] =>
    (sign == '+' || sign == '-') &&
      (two? h1 h2).any (· ≤ 23) && (two? m1 m2).any (· ≤ 59)
  | _ => false

/-- Whether characters follow a date correctly: nothing, or a time with or without an offset. -/
def completesDate : List Char → Bool
  | [] => true
  | separator :: rest =>
    ['T', 't', ' '].contains separator && (afterTime? rest).any isOffset

/-- Whether characters spell a moment. -/
def spells (cs : List Char) : Bool :=
  match afterDate? cs with
  | some rest => completesDate rest
  | none => (afterTime? cs).any List.isEmpty

end Runbook.Toml.Moment
