/-
Polyschema.Number.Shortest — a binary floating-point number as the
shortest decimal that reads back as the same number.

* `shortest` — the digits: of the decimals that round to the number, one
  with the fewest digits, and of those the nearest.
* `Binary64.text` — the number as text: positional from 10⁻⁴ up to below
  10¹⁶, otherwise with an exponent of at least two digits.
-/
import Polyschema.Number.Binary64

namespace Polyschema.Number

/-- A positive decimal `digits · 10 ^ (exponent - count + 1)`, whose
first of `count` digits stands at 10 to the power of `exponent`. -/
structure Digits where
  digits : Nat
  count : Nat
  exponent : Int

/-- The place of the first digit of a positive number of units: the
greatest power of ten not above the number. -/
def leadingExponent (units : Nat) : Int :=
  Int.ofNat (digitCount (units * Nat.pow 10 400 / Nat.pow 2 Binary64.unitExponent)) -
    401

/-- The decimals that read back as a number of units, given in quarters
of a unit: those between the bounds, and the bounds as well when
`closed`. -/
structure ReadBack where
  low : Nat
  high : Nat
  closed : Bool

/-- The interval of reals that round to a positive number of units. It
reaches half way to either neighbour; the neighbour below a power of two
is only half as far. -/
def readBack (units : Nat) : ReadBack :=
  let spare := Binary64.spareBits units
  let step := Nat.pow 2 spare
  let significand := units / step
  let below := if significand = Nat.pow 2 52 ∧ 0 < spare then step else 2 * step
  { low := 4 * units - below, high := 4 * units + 2 * step,
    closed := significand % 2 == 0 }

/-- The decimal of `count` digits nearest to a number of units, if one
of the two neighbours on that grid reads back. -/
def onGrid? (units : Nat) (exponent : Int) (count : Nat) : Option Nat :=
  let bounds := readBack units
  let scale := Nat.pow 10 400
  let grid := Nat.pow 10 (exponent + 401 - count).toNat *
    Nat.pow 2 (Binary64.unitExponent + 2)
  let value := 4 * units * scale
  let low := value / grid
  let reads (n : Nat) : Bool :=
    let here := n * grid
    let least := bounds.low * scale
    let most := bounds.high * scale
    if bounds.closed then least ≤ here && here ≤ most
    else least < here && here < most
  let lowFar := value - low * grid
  let highFar := (low + 1) * grid - value
  match reads low, reads (low + 1) with
  | true, true =>
    some (if lowFar < highFar ∨ lowFar = highFar ∧ low % 2 = 0 then low
      else low + 1)
  | true, false => some low
  | false, true => some (low + 1)
  | false, false => none

/-- The shortest decimal of a positive number of units. Seventeen digits
always suffice. -/
def shortest (units : Nat) : Digits :=
  let exponent := leadingExponent units
  let rec search : Nat → Nat → Digits
    | 0, count => ⟨(onGrid? units exponent count).getD 0, count, exponent⟩
    | more + 1, count =>
      match onGrid? units exponent count with
      | some digits => ⟨digits, count, exponent⟩
      | none => search more (count + 1)
  let found := search 16 1
  if found.digits = Nat.pow 10 found.count then
    ⟨1, 1, found.exponent + 1⟩
  else found

/-- A whole number with a sign, filled with zeros to two digits. -/
def exponentText (n : Int) : String :=
  let digits := toString n.natAbs
  (if n < 0 then "-" else "+") ++ (if digits.length < 2 then "0" else "") ++ digits

def zeros (count : Nat) : List Char := List.replicate count '0'

def Digits.text (d : Digits) : String :=
  let all := (toString d.digits).toList
  if -4 ≤ d.exponent ∧ d.exponent < 16 then
    if d.exponent < 0 then
      String.ofList ('0' :: '.' :: (zeros (-d.exponent - 1).toNat ++ all))
    else
      let whole := d.exponent.toNat + 1
      let front := (all ++ zeros (whole - all.length)).take whole
      let back := all.drop whole
      String.ofList (front ++ '.' :: (if back.isEmpty then ['0'] else back))
  else
    let front := all.take 1
    let back := all.drop 1
    String.ofList (front ++ (if back.isEmpty then [] else '.' :: back)) ++
      "e" ++ exponentText d.exponent

def Binary64.text : Binary64 → String
  | .nan => "nan"
  | .infinite negative => if negative then "-inf" else "inf"
  | .finite negative units =>
    (if negative then "-" else "") ++
      if units = 0 then "0.0" else (shortest units).text

end Polyschema.Number
