/-
Polyschema.Calendar.Timestamp — a day with a time of day, with or
without an offset from universal time.

* `Timestamp.text` — the ISO 8601 form.
* `Timestamp.same` — equality as points in time.
-/
import Polyschema.Calendar.Date

namespace Polyschema.Calendar

/-- A time of day in microseconds. -/
structure Clock where
  hour : Nat
  minute : Nat
  second : Nat
  microsecond : Nat
  valid : (hour < 24 && minute < 60 && second < 60 && microsecond < 1000000) = true
  deriving DecidableEq, Repr

/-- The time of day, if there is one. -/
def Clock.of? (hour minute second microsecond : Nat) : Option Clock :=
  if valid : (hour < 24 && minute < 60 && second < 60 && microsecond < 1000000) = true then
    some ⟨hour, minute, second, microsecond, valid⟩
  else none

/-- A time of day is found again from its parts. -/
theorem Clock.of?_parts (c : Clock) :
    of? c.hour c.minute c.second c.microsecond = some c := by
  simp only [of?]
  rw [dif_pos c.valid]

def Clock.midnight : Clock := ⟨0, 0, 0, 0, by decide⟩

/-- The microseconds of a day. -/
def dayLength : Nat := 86400000000

def Clock.sinceMidnight (c : Clock) : Nat :=
  ((c.hour * 60 + c.minute) * 60 + c.second) * 1000000 + c.microsecond

/-- An offset from universal time in microseconds, less than a day
either way. -/
structure Offset where
  microseconds : Int
  valid : (microseconds.natAbs < dayLength) = true
  deriving DecidableEq, Repr

/-- The offset, if it is less than a day. -/
def Offset.of? (microseconds : Int) : Option Offset :=
  if valid : (microseconds.natAbs < dayLength) = true then
    some ⟨microseconds, valid⟩
  else none

def Offset.universal : Offset := ⟨0, by decide⟩

/-- A day, a time of day and, if it is known, the offset of the clock. -/
structure Timestamp where
  date : Date
  clock : Clock
  offset : Option Offset
  deriving DecidableEq, Repr

/-- The time of day as `HH:MM:SS`, with six digits of a second if any
is not zero. -/
def Clock.text (c : Clock) : String :=
  Date.padded 2 c.hour ++ ":" ++ Date.padded 2 c.minute ++ ":" ++
    Date.padded 2 c.second ++
    if c.microsecond = 0 then "" else "." ++ Date.padded 6 c.microsecond

/-- The offset as a sign and `HH:MM`, with seconds and parts of a second
only if they are not zero. -/
def Offset.text (o : Offset) : String :=
  let total := o.microseconds.natAbs
  let micros := total % 1000000
  let seconds := total / 1000000
  (if o.microseconds < 0 then "-" else "+") ++
    Date.padded 2 (seconds / 3600) ++ ":" ++
    Date.padded 2 (seconds / 60 % 60) ++
    if seconds % 60 = 0 ∧ micros = 0 then ""
    else ":" ++ Date.padded 2 (seconds % 60) ++
      if micros = 0 then "" else "." ++ Date.padded 6 micros

def Timestamp.text (t : Timestamp) : String :=
  t.date.text ++ "T" ++ t.clock.text ++ (t.offset.map Offset.text).getD ""

/-- Microseconds of local time since the first day of year 1. -/
def Timestamp.localTime (t : Timestamp) : Nat :=
  t.date.ordinal * dayLength + t.clock.sinceMidnight

/-- Equality as points in time. A timestamp with an offset never equals
one without. -/
def Timestamp.same (a b : Timestamp) : Bool :=
  match a.offset, b.offset with
  | none, none => a.localTime == b.localTime
  | some x, some y =>
    Int.ofNat a.localTime - x.microseconds == Int.ofNat b.localTime - y.microseconds
  | _, _ => false

end Polyschema.Calendar
