/-
Polyschema.Calendar.Iso — dates and timestamps read from ISO 8601 text.

* `Date.read?` — `YYYY-MM-DD`, `YYYYMMDD`, and the week forms
  `YYYY-Www-D`, `YYYYWwwD`, whose weekday may be left out.
* `Timestamp.read?` — a date, any one character, and a time with an
  optional offset. The time may leave out seconds and minutes and its
  colons; parts of a second follow a point or a comma, and digits after
  the sixth are dropped. An offset of less than a second is not kept.
-/
import Polyschema.Calendar.Timestamp

namespace Polyschema.Calendar

/-! ## Dates -/

/-- Reads `count` ASCII digits as a number that continues `value`. -/
def takeDigits (value : Nat) : Nat → List Char → Option (Nat × List Char)
  | 0, cs => some (value, cs)
  | _ + 1, [] => none
  | count + 1, c :: rest =>
    if c.isDigit then takeDigits (10 * value + (c.toNat - 0x30)) count rest
    else none

def takeHyphen (hyphens : Bool) (cs : List Char) : Option (List Char) :=
  if hyphens then
    match cs with
    | '-' :: rest => some rest
    | _ => none
  else some cs

/-- The rest of a week date after its `W`. What follows the weekday is
not looked at. -/
def readWeek? (year : Nat) (hyphens : Bool) (cs : List Char) : Option Date := do
  let (week, rest) ← takeDigits 0 2 cs
  match rest with
  | [] => Date.ofWeek? year week 1
  | _ =>
    let rest ← takeHyphen hyphens rest
    let (weekday, _) ← takeDigits 0 1 rest
    Date.ofWeek? year week weekday

/-- A date of any form. What follows the day is not looked at. -/
def readDate? (cs : List Char) : Option Date := do
  let (year, rest) ← takeDigits 0 4 cs
  let hyphens := rest.head? == some '-'
  let rest := if hyphens then rest.drop 1 else rest
  match rest with
  | 'W' :: rest => readWeek? year hyphens rest
  | _ =>
    let (month, rest) ← takeDigits 0 2 rest
    let rest ← takeHyphen hyphens rest
    let (day, _) ← takeDigits 0 2 rest
    Date.of? year month day

/-- A date read from text of one of the lengths a date can have. -/
def Date.read? (s : String) : Option Date :=
  if [7, 8, 10].contains s.utf8ByteSize then readDate? s.toList else none

/-! ## Times -/

/-- A time as read: its parts, not yet checked for range, and whether
something stood after them. -/
structure RawClock where
  hour : Nat
  minute : Nat
  second : Nat
  microsecond : Nat
  trailing : Bool

/-- A number of one to six digits as millionths. -/
def millionths (value count : Nat) : Nat := value * Nat.pow 10 (6 - count)

/-- Parts of a second, of which all after the sixth digit are dropped. -/
def readFraction? (hour minute second : Nat) (cs : List Char) :
    Option RawClock := do
  let count := min 6 cs.length
  let (value, rest) ← takeDigits 0 count cs
  pure ⟨hour, minute, second, millionths value count,
    !(rest.dropWhile Char.isDigit).isEmpty⟩

/-- The step after a part of a time, on the characters that follow it. -/
inductive AfterPart where
  | done (trailing : Bool)
  | more (rest : List Char)
  | fraction (rest : List Char)

/-- What follows a part of a time, with or without colons between the
parts. One more ASCII character ends the time but is noticed. -/
def afterPart? (colons : Bool) : List Char → Option AfterPart
  | [] => some (.done false)
  | [c] => if c.toNat < 0x80 then some (.done true) else none
  | c :: rest =>
    if colons && c == ':' then some (.more rest)
    else if c == '.' || c == ',' then some (.fraction rest)
    else if !colons then some (.more (c :: rest))
    else none

/-- A time: hours, then minutes and seconds if they stand there, then
parts of a second. Colons are expected throughout if one follows the
hours. -/
def readClock? (cs : List Char) : Option RawClock := do
  let (hour, rest) ← takeDigits 0 2 cs
  let colons := rest.head? == some ':'
  match ← afterPart? colons rest with
  | .done trailing => pure ⟨hour, 0, 0, 0, trailing⟩
  | .fraction rest => readFraction? hour 0 0 rest
  | .more rest =>
    let (minute, rest) ← takeDigits 0 2 rest
    match ← afterPart? colons rest with
    | .done trailing => pure ⟨hour, minute, 0, 0, trailing⟩
    | .fraction rest => readFraction? hour minute 0 rest
    | .more rest =>
      let (second, rest) ← takeDigits 0 2 rest
      match ← afterPart? colons rest with
      | .done trailing => pure ⟨hour, minute, second, 0, trailing⟩
      | .fraction rest => readFraction? hour minute second rest
      | .more rest => readFraction? hour minute second rest

def opensOffset (c : Char) : Bool := c == '+' || c == '-' || c == 'Z'

/-- The offset that is read as a time with a sign. Without a whole
second it is universal time, whatever parts of a second are given. -/
def RawClock.offset? (negative : Bool) (raw : RawClock) : Option Offset :=
  let seconds := (raw.hour * 60 + raw.minute) * 60 + raw.second
  let total := Int.ofNat (seconds * 1000000 + raw.microsecond)
  if seconds = 0 then some .universal
  else Offset.of? (if negative then -total else total)

/-- The offset that stands after a time. -/
def readOffset? : List Char → Option (Option Offset)
  | [] => some none
  | ['Z'] => some (some Offset.universal)
  | 'Z' :: _ => none
  | sign :: rest => do
    let raw ← readClock? rest
    if raw.trailing then none
    else
      let offset ← raw.offset? (sign == '-')
      pure (some offset)

def readTime? (cs : List Char) : Option (Clock × Option Offset) := do
  let tail := cs.dropWhile (!opensOffset ·)
  let raw ← readClock? (cs.takeWhile (!opensOffset ·))
  if raw.trailing && tail.isEmpty then none
  else
    let offset ← readOffset? tail
    let clock ← Clock.of? raw.hour raw.minute raw.second raw.microsecond
    pure (clock, offset)

/-! ## Timestamps -/

/-- How many characters of a timestamp belong to its date. Where a week
date may or may not have a weekday, digits after it decide. -/
def dateLength (cs : List Char) : Option Nat :=
  let digitAt (place : Nat) : Bool := cs[place]?.any Char.isDigit
  if cs.length = 7 then some 7
  else if cs[4]? == some '-' then
    if cs[5]? == some 'W' then
      if cs.length < 8 then none
      else if cs[8]? == some '-' then
        if cs.length = 9 then none
        else if digitAt 10 then some 8
        else some 10
      else some 8
    else some 10
  else if cs[4]? == some 'W' then
    let place := 7 + ((cs.drop 7).takeWhile Char.isDigit).length
    if place < 9 then some place
    else if place % 2 = 0 then some 7
    else some 8
  else some 8

/-- A timestamp read from text. A date alone is its midnight; after any
one character a time must follow. -/
def Timestamp.read? (s : String) : Option Timestamp := do
  let cs := s.toList
  if cs.length < 7 then none
  else
    let length ← dateLength cs
    let date ← readDate? (cs.take length)
    match cs.drop length with
    | [] => pure ⟨date, Clock.midnight, none⟩
    | _ :: time =>
      let (clock, offset) ← readTime? time
      pure ⟨date, clock, offset⟩

end Polyschema.Calendar
