/-
Polyschema.Value.Text — values as texts.

* `Value.shown` — the form in which messages show a value: texts quoted,
  dates and decimals with their kind.
* `Value.text` — the plain form: a text is itself.
-/
import Polyschema.Text.Lines
import Polyschema.Text.Quoted
import Polyschema.Number.Shortest
import Polyschema.Value.Basic

namespace Polyschema

open Polyschema.Text Polyschema.Number Polyschema.Calendar

/-! ## Dates and offsets -/

def Calendar.Date.shown (d : Date) : String :=
  "datetime.date(" ++ commas [toString d.year, toString d.month, toString d.day] ++ ")"

/-- The parts of a length of time that are not zero, days first. Only
the days may be negative. -/
def shownSpan (microseconds : Int) : String :=
  let day := Int.ofNat dayLength
  let days := microseconds.fdiv day
  let rest := microseconds.fmod day
  let seconds := rest / 1000000
  let micros := rest % 1000000
  let part (name : String) (n : Int) : List String :=
    if n = 0 then [] else [name ++ "=" ++ toString n]
  let parts := part "days" days ++ part "seconds" seconds ++ part "microseconds" micros
  "datetime.timedelta(" ++ (if parts.isEmpty then "0" else commas parts) ++ ")"

def Calendar.Offset.shown (o : Offset) : String :=
  if o.microseconds = 0 then "datetime.timezone.utc"
  else "datetime.timezone(" ++ shownSpan o.microseconds ++ ")"

/-- A timestamp as messages show it: seconds only if something stands
in or after them. -/
def Calendar.Timestamp.shown (t : Timestamp) : String :=
  let c := t.clock
  let tail :=
    if c.microsecond ≠ 0 then [c.second, c.microsecond]
    else if c.second ≠ 0 then [c.second]
    else []
  let numbers := [t.date.year, t.date.month, t.date.day, c.hour, c.minute] ++ tail
  let zone := match t.offset with
    | none => []
    | some o => ["tzinfo=" ++ o.shown]
  "datetime.datetime(" ++ commas (numbers.map toString ++ zone) ++ ")"

/-! ## Values -/

namespace Value

/-- Items in round brackets; a single one is followed by a comma. -/
def tupleText : List String → String
  | [only] => "(" ++ only ++ ",)"
  | items => "(" ++ commas items ++ ")"

def listText (items : List String) : String := "[" ++ commas items ++ "]"

def dictText (entries : List String) : String :=
  "\x7b" ++ commas entries ++ "\x7d"

mutual
def shown : Value → String
  | null => "None"
  | bool b => if b then "True" else "False"
  | int n => toString n
  | float x => x.text
  | str s => shownString s
  | decimal d => "Decimal('" ++ d.text ++ "')"
  | date d => d.shown
  | timestamp t => t.shown
  | list items => listText (shownItems items)
  | tuple items => tupleText (shownItems items)
  | dict entries => dictText (shownEntries entries)
  | generator => "<function>"
  | typeRef _ text => text

def shownItems : List Value → List String
  | [] => []
  | v :: rest => shown v :: shownItems rest

def shownEntries : List (Value × Value) → List String
  | [] => []
  | (k, v) :: rest => (shown k ++ ": " ++ shown v) :: shownEntries rest
end

def text : Value → String
  | str s => s
  | decimal d => d.text
  | date d => d.text
  | timestamp t =>
    t.date.text ++ " " ++ t.clock.text ++ (t.offset.map Offset.text).getD ""
  | v => shown v

end Value

def shownStrings (items : List String) : String :=
  Value.listText (items.map shownString)

end Polyschema
