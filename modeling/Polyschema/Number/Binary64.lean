/-
Polyschema.Number.Binary64 — binary floating point of 64 bits.

A finite number is a sign and a whole number of units, where a unit is
the smallest positive number of the format, 2⁻¹⁰⁷⁴. Every finite number
of the format is a whole number of units, so exact arithmetic needs
natural numbers only. Their powers are written with `Nat.pow`, which is
the same function whatever else is imported.

* `ofRatio` — the number of the format nearest to a quotient.
* `ofDecimal`, `ofInt?` — the same for decimal and whole numbers.
-/
import Polyschema.Number.Round

namespace Polyschema.Number

/-- A number of the format. The value of `finite s u` is `u · 2⁻¹⁰⁷⁴`
with the sign `s`; zero has two signs. -/
inductive Binary64 where
  | nan
  | infinite (negative : Bool)
  | finite (negative : Bool) (units : Nat)
  deriving DecidableEq, Repr

namespace Binary64

/-- The exponent of the unit: a unit is `2 ^ -unitExponent`. -/
def unitExponent : Nat := 1074

/-- How many units are too many for a finite number. -/
def unitLimit : Nat := Nat.pow 2 2098

/-- The number of low bits that a number of units must leave zero, since
only 53 bits are significant. -/
def spareBits (units : Nat) : Nat := units.log2 - 52

/-- The number nearest to `num / den`, a tie going to the even one;
infinite when the quotient is beyond all finite numbers. -/
def ofRatio (negative : Bool) (num den : Nat) : Binary64 :=
  let scaled := num * Nat.pow 2 unitExponent
  let step := Nat.pow 2 (spareBits (scaled / den))
  let units := roundHalfEven scaled (den * step) * step
  if unitLimit ≤ units then infinite negative else finite negative units

def ofDecimal (negative : Bool) (coefficient : Nat) (exponent : Int) :
    Binary64 :=
  let magnitude := Int.ofNat (digitCount coefficient) + exponent
  if coefficient = 0 ∨ magnitude < -400 then finite negative 0
  else if 400 < magnitude then infinite negative
  else ofRatio negative
    (coefficient * Nat.pow 10 exponent.toNat) (Nat.pow 10 (-exponent).toNat)

def finite? : Binary64 → Option Binary64
  | finite negative units => some (finite negative units)
  | _ => none

/-- The number nearest to a whole number, if it is a finite one. -/
def ofInt? (n : Int) : Option Binary64 := (ofRatio (n < 0) n.natAbs 1).finite?

/-- Neither infinite nor not a number. -/
def isFinite : Binary64 → Bool
  | finite _ _ => true
  | _ => false

/-- Zero of either sign. -/
def isZero : Binary64 → Bool
  | finite _ units => units == 0
  | _ => false

def neg : Binary64 → Binary64
  | nan => nan
  | infinite negative => infinite !negative
  | finite negative units => finite (!negative) units

/-- The whole number that a number is, if it is one. -/
def toInt? : Binary64 → Option Int
  | finite negative units =>
    if units % Nat.pow 2 unitExponent = 0 then
      let whole := Int.ofNat (units / Nat.pow 2 unitExponent)
      some (if negative then -whole else whole)
    else none
  | _ => none

/-- The signed number of units of a finite number. -/
def signedUnits? : Binary64 → Option Int
  | finite negative units =>
    some (if negative then -Int.ofNat units else Int.ofNat units)
  | _ => none

/-- Equality of numbers: the zeros are equal, and what is not a number
equals nothing. -/
def same : Binary64 → Binary64 → Bool
  | nan, _ => false
  | _, nan => false
  | infinite a, infinite b => a == b
  | a, b => match a.signedUnits?, b.signedUnits? with
    | some m, some n => m == n
    | _, _ => false

end Binary64

end Polyschema.Number
