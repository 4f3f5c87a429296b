/-
Polyschema.Yaml.Plain — what plain scalars stand for.

A plain scalar is a text unless it has the form of something else: null,
a truth value, a whole number to one of five bases, a binary number, a
day or a timestamp. The forms are those of YAML 1.1.

* `Plain.value` — the value of a plain scalar.
-/
import Polyschema.Fault
import Polyschema.Number.Read
import Polyschema.Text.Cut

namespace Polyschema.Yaml

open Polyschema.Number Polyschema.Calendar Polyschema.Text

namespace Plain

/-- A scalar has the form of a number, a day or a timestamp that does not
exist. -/
def noSuchValue : ReadFault := .other (.misuse .badContent)

/-! ## Words -/

/-- A word in small letters, with a capital at its front, or all in
capitals. -/
def isWord (word s : String) : Bool :=
  s == word || s == word.capitalize || s == word.toUpper

def truths : List (String × Bool) := [
  ("yes", true), ("no", false), ("true", true), ("false", false), ("on", true),
  ("off", false)]

def truth? (s : String) : Option Bool :=
  (truths.find? fun (word, _) => isWord word s).map Prod.snd

def isNull (s : String) : Bool := s == "" || s == "~" || isWord "null" s

/-! ## Numbers -/

/-- Whether there are some characters and all of them pass a test. -/
def allOf (test : Char → Bool) (cs : List Char) : Bool := !cs.isEmpty && cs.all test

/-- A digit or an underscore, which counts for nothing in a number. -/
def isLoose (c : Char) : Bool := c.isDigit || c == '_'

/-- Digits, the first of them before any underscore. -/
def isLooseNumber (cs : List Char) : Bool :=
  cs.head?.any Char.isDigit && cs.all isLoose

/-- The same without a zero in front. -/
def isLooseCount (cs : List Char) : Bool := isLooseNumber cs && cs.head? != some '0'

def tight (cs : List Char) : List Char := cs.filter (· != '_')

def based (base : Nat) (digits : List Char) : Except ReadFault Nat :=
  if digits.isEmpty then .error noSuchValue
  else .ok (digits.foldl (fun n c => base * n + (hexValue? c).getD 0) 0)

/-- A place of a number to base sixty after the first. -/
def isSixtieth (cs : List Char) : Bool :=
  match cs with
  | [a] => a.isDigit
  | [a, b] => '0' ≤ a && a ≤ '5' && b.isDigit
  | _ => false

/-- The whole number that a text without its sign writes, if it has the
form of one. -/
def whole? (cs : List Char) : Option (Except ReadFault Nat) :=
  match cs with
  | ['0'] => some (.ok 0)
  | '0' :: 'b' :: digits =>
    if allOf (fun c => c == '0' || c == '1' || c == '_') digits then
      some (based 2 (tight digits))
    else none
  | '0' :: 'x' :: digits =>
    if allOf (fun c => (hexValue? c).isSome || c == '_') digits then
      some (based 16 (tight digits))
    else none
  | '0' :: digits =>
    if allOf (fun c => ('0' ≤ c && c ≤ '7') || c == '_') digits then
      some (based 8 ('0' :: tight digits))
    else none
  | cs => match pieces ':' cs with
    | first :: places =>
      if isLooseCount first && places.all isSixtieth then
        some (.ok (places.foldl (fun n p => 60 * n + digitsValue p)
          (digitsValue (tight first))))
      else none
    | [] => none

/-- The whole number of a plain scalar, if it has the form of one. -/
def int? (cs : List Char) : Option (Except ReadFault Int) :=
  let (negative, body) := takeSign cs
  (whole? body).map fun n => n.map fun n =>
    if negative then -Int.ofNat n else Int.ofNat n

/-- The exponent of a binary number, which has to have a sign. -/
def isPower : List Char → Bool
  | [] => true
  | mark :: sign :: digits =>
    (mark == 'e' || mark == 'E') && (sign == '+' || sign == '-') &&
      allOf Char.isDigit digits
  | _ => false

/-- Digits and underscores, then an exponent at most. -/
def isFraction (cs : List Char) : Bool := isPower (cs.dropWhile isLoose)

/-- The sum of finite numbers that are not negative. -/
def plus (x y : Binary64) : Binary64 :=
  match x, y with
  | .finite _ a, .finite _ b => .ofRatio false (a + b) (Nat.pow 2 Binary64.unitExponent)
  | .finite _ _, other => other
  | other, _ => other

/-- A number that is not negative, taken some number of times. -/
def times (x : Binary64) (n : Nat) : Binary64 :=
  match x with
  | .finite _ a => .ofRatio false (a * n) (Nat.pow 2 Binary64.unitExponent)
  | other => other

/-- The number of digits to base ten with a fraction. -/
def decimal (cs : List Char) : Binary64 :=
  match readScientific cs with
  | some (coefficient, exponent) => .ofDecimal false coefficient exponent
  | none => .nan

/-- A number to base sixty whose places stand last first, each worth
`worth` times its digits. A place must not be worth more than a binary
number can hold. -/
def sixtieths (worth : Nat) (sum : Binary64) :
    List (List Char) → Except ReadFault Binary64
  | [] => .ok sum
  | place :: rest =>
    if (Binary64.ofInt? worth).isSome then
      sixtieths (worth * 60) (plus sum (times (decimal place) worth)) rest
    else .error (.other (.misuse .outOfRange))

/-- Whether places of a number to base sixty end in a fraction. -/
def endInFraction : List (List Char) → Bool
  | [] => false
  | [last] => isSixtieth (last.takeWhile (· != '.')) && last.contains '.' &&
      ((last.dropWhile (· != '.')).drop 1).all isLoose
  | place :: rest => isSixtieth place && endInFraction rest

/-- A binary number without its sign, if a text has the form of one. -/
def fraction? (cs : List Char) : Option (Except ReadFault Binary64) :=
  let whole := cs.takeWhile (· != '.')
  match cs.dropWhile (· != '.') with
  | '.' :: part =>
    if isLooseNumber whole && isFraction part then some (.ok (decimal (tight cs)))
    else match pieces ':' cs with
      | first :: places =>
        if isLooseNumber first && endInFraction places then
          some (sixtieths 1 (.finite false 0) (tight <$> (first :: places).reverse))
        else none
      | [] => none
  | _ => none

/-- Whether a text is a word for infinity without its sign. -/
def isInfinity (s : String) : Bool :=
  s == ".inf" || s == ".Inf" || s == ".INF"

def isNan (s : String) : Bool := s == ".nan" || s == ".NaN" || s == ".NAN"

/-- Whether a text is a fraction without digits before its point, which
takes no sign. -/
def isBareFraction : List Char → Bool
  | '.' :: c :: rest => c.isDigit && isFraction rest
  | _ => false

/-- The binary number of a plain scalar, if it has the form of one. -/
def float? (cs : List Char) : Option (Except ReadFault Binary64) :=
  let (negative, body) := takeSign cs
  if isNan (String.ofList cs) then some (.ok .nan)
  else if isInfinity (String.ofList body) then some (.ok (.infinite negative))
  else if isBareFraction cs then some (.ok (decimal (tight cs)))
  else (fraction? body).map fun x => x.map fun x => if negative then x.neg else x

/-! ## Days and timestamps -/

/-- A number of as many digits as are there, within bounds. -/
def digits? (least most : Nat) (cs : List Char) : Option (Nat × List Char) :=
  let run := (cs.take most).takeWhile Char.isDigit
  if least ≤ run.length then some (digitsValue run, cs.drop run.length) else none

def after? (c : Char) : List Char → Option (List Char)
  | x :: rest => if x = c then some rest else none
  | [] => none

/-- A blank or a tab. -/
def isTabOrBlank (c : Char) : Bool := c == ' ' || c == '\t'

/-- What stands between a day and a time of day: a letter or blanks. -/
def afterDay? : List Char → Option (List Char)
  | [] => none
  | c :: rest =>
    if c = 'T' ∨ c = 't' then some rest
    else if isTabOrBlank c then some (rest.dropWhile isTabOrBlank)
    else none

/-- The microseconds of the digits of a second; further digits are left
out. -/
def micros (digits : List Char) : Nat :=
  digitsValue (digits.take 6) * Nat.pow 10 (6 - min 6 digits.length)

/-- The offset at the end of a timestamp in minutes, if there is one. -/
def offset? (cs : List Char) : Option (Option Int) :=
  match cs, cs.dropWhile isTabOrBlank with
  | [], _ => some none
  | _, ['Z'] => some (some 0)
  | _, sign :: rest => do
    if sign ≠ '+' ∧ sign ≠ '-' then none
    let (hours, rest) ← digits? 1 2 rest
    let (minutes, rest) ← match rest with
      | ':' :: rest => digits? 2 2 rest
      | rest => some (0, rest)
    if !rest.isEmpty then none
    let total := Int.ofNat (hours * 60 + minutes)
    pure (some (if sign = '-' then -total else total))
  | _, [] => none

/-- A text in the form of a timestamp: its numbers. -/
structure Moment where
  year : Nat
  month : Nat
  day : Nat
  hour : Nat
  minute : Nat
  second : Nat
  micros : Nat
  offset : Option Int

/-- The numbers of a timestamp, if a text has the form of one. -/
def moment? (cs : List Char) : Option Moment := do
  let (year, cs) ← digits? 4 4 cs
  let (month, cs) ← digits? 1 2 (← after? '-' cs)
  let (day, cs) ← digits? 1 2 (← after? '-' cs)
  let (hour, cs) ← digits? 1 2 (← afterDay? cs)
  let (minute, cs) ← digits? 2 2 (← after? ':' cs)
  let (second, cs) ← digits? 2 2 (← after? ':' cs)
  let (part, cs) := match cs with
    | '.' :: rest => (rest.takeWhile Char.isDigit, rest.dropWhile Char.isDigit)
    | cs => ([], cs)
  let offset ← offset? cs
  pure ⟨year, month, day, hour, minute, second, micros part, offset⟩

def Moment.timestamp? (m : Moment) : Option Timestamp := do
  let date ← Date.of? m.year m.month m.day
  let clock ← Clock.of? m.hour m.minute m.second m.micros
  match m.offset with
  | none => pure ⟨date, clock, none⟩
  | some minutes => pure ⟨date, clock, some (← Offset.of? (minutes * 60000000))⟩

/-- The numbers of a day, if a text has the form of one: four, two and
two digits. -/
def day? (cs : List Char) : Option (Nat × Nat × Nat) := do
  let (year, cs) ← digits? 4 4 cs
  let (month, cs) ← digits? 2 2 (← after? '-' cs)
  let (day, cs) ← digits? 2 2 (← after? '-' cs)
  if cs.isEmpty then some (year, month, day) else none

/-! ## All forms -/

def existing (v : Option Value) : Except ReadFault Value :=
  match v with
  | some v => .ok v
  | none => .error noSuchValue

/-- The plain scalars that have a meaning only as keys. -/
def isReserved (s : String) : Bool := s == "=" || s == "<<"

def value (s : String) : Except ReadFault Value :=
  let cs := s.toList
  if isNull s then .ok .null
  else match truth? s, float? cs, int? cs, day? cs, moment? cs with
    | some b, _, _, _, _ => .ok (.bool b)
    | _, some x, _, _, _ => x.map .float
    | _, _, some n, _, _ => n.map .int
    | _, _, _, some (y, m, d), _ => existing ((Date.of? y m d).map .date)
    | _, _, _, _, some m => existing (m.timestamp?.map .timestamp)
    | _, _, _, _, _ => if isReserved s then .error .malformed else .ok (.str s)

end Plain

end Polyschema.Yaml
