/-
Polyschema.Calendar.Date — days of the Gregorian calendar from year 1 to
year 9999.

* `Date` — a day that exists.
* `Date.ordinal` — its number, counted from the first day of year 1.
* `Date.ofWeek?` — the day at a place of a week-numbered year.
* `Date.text` — `YYYY-MM-DD`.
-/

namespace Polyschema.Calendar

/-- A year with a 29th of February. -/
def isLeap (year : Nat) : Bool :=
  year % 4 == 0 && (year % 100 != 0 || year % 400 == 0)

def monthLengths (year : Nat) : List Nat :=
  [31, if isLeap year then 29 else 28, 31, 30, 31, 30, 31, 31, 30, 31, 30, 31]

/-- The length of a month, counted from 1; zero when there is none. -/
def monthLength (year month : Nat) : Nat :=
  if month = 0 then 0 else (monthLengths year)[month - 1]?.getD 0

/-- Whether the calendar has the day. -/
def isDay (year month day : Nat) : Bool :=
  1 ≤ year && year ≤ 9999 && 1 ≤ day && day ≤ monthLength year month

/-- A day of the calendar. -/
structure Date where
  year : Nat
  month : Nat
  day : Nat
  valid : isDay year month day = true
  deriving DecidableEq, Repr

namespace Date

/-- The day, if the calendar has it. -/
def of? (year month day : Nat) : Option Date :=
  if valid : isDay year month day = true then some ⟨year, month, day, valid⟩
  else none

theorem of?_parts (d : Date) : of? d.year d.month d.day = some d := by
  simp [of?, d.valid]

/-- How many days lie before the first day of a year. -/
def daysBeforeYear (year : Nat) : Nat :=
  let past := year - 1
  past * 365 + past / 4 - past / 100 + past / 400

/-- The number of a day, the first day of year 1 being the first. -/
def ordinal (d : Date) : Nat :=
  daysBeforeYear d.year + ((monthLengths d.year).take (d.month - 1)).foldl (· + ·) 0 + d.day

/-! ## Week-numbered years -/

/-- The weekday of the first of January, Monday being zero. -/
def firstWeekday (year : Nat) : Nat := daysBeforeYear year % 7

/-- How many weeks a week-numbered year has. -/
def weeksIn (year : Nat) : Nat :=
  if firstWeekday year = 3 ∨ firstWeekday year = 2 ∧ isLeap year then 53 else 52

/-- The day that comes `number` days into a year, counted from 1, found
by walking its months. -/
def inMonths? (year : Nat) (number : Nat) :
    List Nat → Nat → Option Date
  | [], _ => none
  | length :: rest, month =>
    if number ≤ length then of? year month number
    else inMonths? year (number - length) rest (month + 1)

/-- The day that comes `number` days into a year, also one of the year
before or after. -/
def inYear? (year : Nat) (number : Int) : Option Date :=
  let length (y : Nat) : Nat := (monthLengths y).foldl (· + ·) 0
  if number ≤ 0 then
    if year ≤ 1 then none
    else inMonths? (year - 1) (number + length (year - 1)).toNat
      (monthLengths (year - 1)) 1
  else if number ≤ length year then
    inMonths? year number.toNat (monthLengths year) 1
  else
    inMonths? (year + 1) (number - length year).toNat (monthLengths (year + 1)) 1

/-- The day at a weekday of a week, Monday being 1. Week 1 is the week
with the first Thursday of the year. -/
def ofWeek? (year week weekday : Nat) : Option Date :=
  if 1 ≤ year ∧ year ≤ 9999 ∧ 1 ≤ week ∧ week ≤ weeksIn year ∧
      1 ≤ weekday ∧ weekday ≤ 7 then
    let first := firstWeekday year
    -- the Monday of week 1, as a day of the year
    let monday : Int := if first ≤ 3 then 1 - first else 8 - first
    inYear? year (monday + (week - 1) * 7 + (weekday - 1))
  else none

/-! ## Text -/

def padded (width number : Nat) : String :=
  let digits := toString number
  String.ofList (List.replicate (width - digits.length) '0') ++ digits

/-- The day as `YYYY-MM-DD`. -/
def text (d : Date) : String :=
  padded 4 d.year ++ "-" ++ padded 2 d.month ++ "-" ++ padded 2 d.day

end Date

end Polyschema.Calendar
