/-
Polyschema.Number.Decimal — decimal floating point: a coefficient and a
power of ten, so that 1.5 and 1.50 are equal numbers but different
values.

* `Decimal.text` — the canonical text: positional when the exponent is
  not positive and the number not too small, otherwise scientific.
* `Decimal.ofBinary64` — the exact value of a binary number.
-/
import Polyschema.Number.Binary64

namespace Polyschema.Number

/-- A decimal. The value of `finite s c e` is `c · 10 ^ e` with the sign
`s`. What is not a number may carry digits, and may be signaling, which
no arithmetic takes. -/
inductive Decimal where
  | finite (negative : Bool) (coefficient : Nat) (exponent : Int)
  | infinite (negative : Bool)
  | nan (signaling negative : Bool) (payload : Nat)
  deriving DecidableEq, Repr

namespace Decimal

/-- Neither infinite nor not a number. -/
def isFinite : Decimal → Bool
  | finite _ _ _ => true
  | _ => false

def isZero : Decimal → Bool
  | finite _ coefficient _ => coefficient == 0
  | _ => false

/-- A whole number with its sign, also of zero and above. -/
def signedText (n : Int) : String :=
  (if n < 0 then "-" else "+") ++ toString n.natAbs

/-- The digits of a coefficient with the point placed so that `left` of
them stand before it, filled with zeros where there are too few. -/
def pointed (digits : List Char) (left : Int) : List Char :=
  if left ≤ 0 then
    '0' :: '.' :: (List.replicate (-left).toNat '0' ++ digits)
  else if digits.length ≤ left.toNat then
    digits ++ List.replicate (left.toNat - digits.length) '0'
  else digits.take left.toNat ++ '.' :: digits.drop left.toNat

/-- The canonical text. The exponent is written out as soon as it is
positive or more than six digits would follow the point before the first
one that is not zero. -/
def text : Decimal → String
  | finite negative coefficient exponent =>
    let digits := (toString coefficient).toList
    let left := Int.ofNat digits.length + exponent
    let sign := if negative then "-" else ""
    if exponent ≤ 0 ∧ -6 < left then
      sign ++ String.ofList (pointed digits left)
    else
      sign ++ String.ofList (pointed digits 1) ++
        (if left = 1 then "" else "E" ++ signedText (left - 1))
  | infinite negative => if negative then "-Infinity" else "Infinity"
  | nan signaling negative payload =>
    (if negative then "-" else "") ++ (if signaling then "sNaN" else "NaN") ++
      (if payload = 0 then "" else toString payload)

/-- The powers of two that divide a positive number, at most `most`. -/
def twos : Nat → Nat → Nat
  | 0, _ => 0
  | most + 1, n => if n % 2 = 0 then twos most (n / 2) + 1 else 0

/-- The exact value of a binary number, with as many digits after the
point as it needs. -/
def ofBinary64 : Binary64 → Decimal
  | .nan => nan false false 0
  | .infinite negative => infinite negative
  | .finite negative units =>
    if units = 0 then finite negative 0 0
    else
      let shared := twos Binary64.unitExponent units
      let places := Binary64.unitExponent - shared
      finite negative (units / Nat.pow 2 shared * Nat.pow 5 places) (-Int.ofNat places)

def ofInt (n : Int) : Decimal := finite (n < 0) n.natAbs 0

/-- The binary number nearest to a decimal; a signaling value has
none. -/
def toBinary64? : Decimal → Option Binary64
  | finite negative coefficient exponent =>
    some (.ofDecimal negative coefficient exponent)
  | infinite negative => some (.infinite negative)
  | nan signaling _ _ => if signaling then none else some .nan

def truncate? : Decimal → Option Int
  | finite negative coefficient exponent =>
    let whole := Int.ofNat
      (coefficient * Nat.pow 10 exponent.toNat / Nat.pow 10 (-exponent).toNat)
    some (if negative then -whole else whole)
  | _ => none

/-- Equality of numbers of finite decimals, whatever their exponents. -/
def same : Decimal → Decimal → Bool
  | finite s c e, finite s' c' e' =>
    if c = 0 ∨ c' = 0 then c == c'
    else
      let least := min e e'
      s == s' && c * Nat.pow 10 (e - least).toNat == c' * Nat.pow 10 (e' - least).toNat
  | infinite s, infinite s' => s == s'
  | _, _ => false

def signed (negative : Bool) (n : Nat) : Int := if negative then -Int.ofNat n else Int.ofNat n

/-- Whether a decimal is less than another. What is no number is neither
less than anything nor greater. -/
def below : Decimal → Decimal → Bool
  | finite s c e, finite s' c' e' =>
    let least := min e e'
    signed s (c * Nat.pow 10 (e - least).toNat) <
      signed s' (c' * Nat.pow 10 (e' - least).toNat)
  | infinite s, infinite s' => s && !s'
  | infinite s, finite _ _ _ => s
  | finite _ _ _, infinite s => !s
  | _, _ => false

end Decimal

end Polyschema.Number
