/-
Polyschema.Calendar.Epoch — timestamps counted from the first day of
1970.

* `Date.ofOrdinal?` — the day with a number, found by going down the
  years from a later one.
* `Timestamp.ofEpoch?` — a moment of universal time.
-/
import Polyschema.Calendar.Timestamp

namespace Polyschema.Calendar

/-- The day with a number, in a year or before it. -/
def Date.downFrom? (number : Nat) : Nat → Option Date
  | 0 => none
  | year + 1 =>
    if Date.daysBeforeYear (year + 1) < number then
      Date.inYear? (year + 1) (number - Date.daysBeforeYear (year + 1))
    else downFrom? number year

/-- The day with a number, the first day of year 1 being the first. No
year has fewer than 365 days, which bounds the year. -/
def Date.ofOrdinal? (number : Nat) : Option Date := Date.downFrom? number (number / 365 + 1)

/-- The number of the last day of 1969. -/
def daysBeforeEpoch : Nat := Date.daysBeforeYear 1970

/-- The moment some microseconds after the first moment of 1970. -/
def Timestamp.ofEpoch? (microseconds : Nat) : Option Timestamp := do
  let date ← Date.ofOrdinal? (daysBeforeEpoch + microseconds / dayLength + 1)
  let rest := microseconds % dayLength
  let seconds := rest / 1000000
  let clock ← Clock.of? (seconds / 3600) (seconds / 60 % 60) (seconds % 60) (rest % 1000000)
  pure ⟨date, clock, some .universal⟩

end Polyschema.Calendar
