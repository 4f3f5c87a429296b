/-
Polyschema.Number.Round — quotients of natural numbers rounded to the
nearest whole number, and digit counts.
-/

namespace Polyschema.Number

/-- The quotient rounded to the nearest whole number, a half going to
the even neighbour. -/
def roundHalfEven (num den : Nat) : Nat :=
  let low := num / den
  let twice := 2 * (num % den)
  if twice < den then low
  else if den < twice then low + 1
  else if low % 2 = 0 then low else low + 1

/-- An exact quotient stays what it is. -/
theorem roundHalfEven_mul (n : Nat) {den : Nat} (pos : 0 < den) :
    roundHalfEven (n * den) den = n := by
  simp [roundHalfEven, Nat.mul_mod_left, Nat.mul_div_cancel n pos, pos]

/-- How many decimal digits a number is written with. -/
def digitCount (n : Nat) : Nat := (toString n).length

end Polyschema.Number
