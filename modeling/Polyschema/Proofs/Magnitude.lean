/-
Polyschema.Proofs.Magnitude — decimals as rational numbers, and which of
them a column of fixed digits holds.

The check of a decimal column counts digits and never compares numbers.
It comes to a comparison with a power of ten, since a number has as many
digits as the powers of ten around it tell.

* `Decimal.toRat` — the number that a finite decimal is.
* `digitCount_le_iff` — digits counted against a power of ten.
* `DecimalShape.holds_fixed_iff` — the decimals of a fixed shape.
* `decimal_accepts_eq` — the domain of a decimal type; its members are
  stored by the SQL type without rounding.
-/
import Mathlib.Algebra.Order.Field.Power
import Mathlib.Data.Rat.Cast.Order
import Mathlib.Tactic.Ring
import Polyschema.Kind.Codec
import Polyschema.Kind.Fragment
import Polyschema.Kind.Make
import Polyschema.Proofs.Digits
import Polyschema.Proofs.Noted

namespace Polyschema

open Polyschema.Number

/-! ## Digits and powers of ten -/

namespace Number

theorem digitCount_eq (n : Nat) : digitCount n = (Nat.toDigits 10 n).length := by
  rw [digitCount, ← String.length_toList, toList_natText]

theorem digitCount_pos (n : Nat) : 0 < digitCount n := by
  rw [digitCount_eq]
  exact List.length_pos_iff.mpr Nat.toDigits_ne_nil

/-- A positive number has at most so many digits where it lies below that
power of ten. -/
theorem digitCount_le_iff {n : Nat} (hn : n ≠ 0) (k : Nat) : digitCount n ≤ k ↔ n < 10 ^ k := by
  cases k with
  | zero =>
    have hpos := digitCount_pos n
    rw [pow_zero]
    omega
  | succ k =>
    rw [digitCount_eq]
    exact Nat.length_toDigits_le_iff (by decide) (Nat.succ_pos k)

theorem lt_pow_digitCount (n : Nat) : n < 10 ^ digitCount n := by
  by_cases hn : n = 0
  · rw [hn]
    exact Nat.pow_pos (by decide)
  · exact (digitCount_le_iff hn _).mp le_rfl

theorem pow_le_of_lt_digitCount {n k : Nat} (hn : n ≠ 0) (hk : k < digitCount n) : 10 ^ k ≤ n :=
  Nat.not_lt.mp fun h => absurd ((digitCount_le_iff hn k).mpr h) (by omega)

/-! ## The number that a decimal is -/

namespace Decimal

/-- The number that a finite decimal is. -/
def toRat : Decimal → ℚ
  | finite negative coefficient exponent =>
    (if negative then -1 else 1) * coefficient * 10 ^ exponent
  | _ => 0

theorem abs_toRat (negative : Bool) (coefficient : Nat) (exponent : Int) :
    |(finite negative coefficient exponent).toRat| = coefficient * 10 ^ exponent := by
  have hpow : (0 : ℚ) < 10 ^ exponent := zpow_pos (by norm_num) exponent
  cases negative <;> simp [toRat, abs_mul, abs_of_pos hpow]

/-- A decimal lies below a power of ten where its digits, moved by its
exponent, are no more than that power. -/
theorem abs_toRat_lt_iff (negative : Bool) {coefficient : Nat} (hc : coefficient ≠ 0)
    (exponent m : Int) :
    |(finite negative coefficient exponent).toRat| < 10 ^ m ↔
      digitCount coefficient + exponent ≤ m := by
  have hbase : (1 : ℚ) < 10 := by norm_num
  have hten : (10 : ℚ) ≠ 0 := by norm_num
  have hpow : (0 : ℚ) < 10 ^ exponent := zpow_pos (by norm_num) exponent
  rw [abs_toRat]
  constructor
  · intro h
    -- the leading digit alone is worth a power of ten
    have hlead : (10 : ℚ) ^ (digitCount coefficient - 1) ≤ coefficient := by
      have hpos := digitCount_pos coefficient
      exact_mod_cast pow_le_of_lt_digitCount hc (Nat.sub_lt hpos Nat.one_pos)
    have hle : (10 : ℚ) ^ ((digitCount coefficient - 1 : Nat) + exponent) ≤
        coefficient * 10 ^ exponent := by
      rw [zpow_add₀ hten, zpow_natCast]
      exact mul_le_mul_of_nonneg_right hlead hpow.le
    have hlt := (zpow_lt_zpow_iff_right₀ hbase).mp (hle.trans_lt h)
    have hpos := digitCount_pos coefficient
    omega
  · intro h
    have hbelow : (coefficient : ℚ) < 10 ^ digitCount coefficient := by
      exact_mod_cast lt_pow_digitCount coefficient
    calc (coefficient : ℚ) * 10 ^ exponent
        < 10 ^ digitCount coefficient * 10 ^ exponent := mul_lt_mul_of_pos_right hbelow hpow
      _ = 10 ^ ((digitCount coefficient : Int) + exponent) := by
        rw [zpow_add₀ hten, zpow_natCast]
      _ ≤ 10 ^ m := (zpow_le_zpow_iff_right₀ hbase).mpr h

/-- A decimal is a whole number of units of any place that is not to the
left of its last digit. -/
theorem toRat_eq_mul_zpow (negative : Bool) (coefficient : Nat) {exponent place : Int}
    (h : place ≤ exponent) : ∃ k : ℤ, (finite negative coefficient exponent).toRat =
      k * 10 ^ place := by
  refine ⟨(if negative then -1 else 1) * coefficient * 10 ^ (exponent - place).toNat, ?_⟩
  have hsplit : (10 : ℚ) ^ exponent = 10 ^ (exponent - place).toNat * 10 ^ place := by
    rw [← zpow_natCast, Int.toNat_of_nonneg (by omega), ← zpow_add₀ (by norm_num)]
    congr 1
    omega
  rw [toRat, hsplit]
  cases negative <;> push_cast <;> ring

end Decimal

end Number

/-! ## Fixed shapes -/

/-- A shape of fixed digits holds the decimals with no digit beyond its
scale that lie below the power of ten that its precision leaves. -/
theorem DecimalShape.holds_fixed_iff {precision scale : Nat} (positive : 0 < precision)
    (fits : scale ≤ precision) (negative : Bool) {coefficient : Nat} (hc : coefficient ≠ 0)
    (exponent : Int) :
    (DecimalShape.fixed precision scale positive fits).holds
        (.finite negative coefficient exponent) = true ↔
      -(scale : Int) ≤ exponent ∧
        |(Decimal.finite negative coefficient exponent).toRat| <
          10 ^ ((precision : Int) - scale) := by
  have hholds : (DecimalShape.fixed precision scale positive fits).holds
      (.finite negative coefficient exponent) = (decide ((-exponent).toNat ≤ scale) &&
        decide ((digitCount coefficient + exponent).toNat ≤ precision - scale)) := rfl
  rw [Decimal.abs_toRat_lt_iff negative hc, hholds, Bool.and_eq_true, decide_eq_true_eq,
    decide_eq_true_eq]
  omega

/-! ## Decimal types -/

theorem precisionOf_int_eq_ok {n : Int} {p : Option {n : Nat // 0 < n}}
    (h : precisionOf (some (.data (.int n))) = .ok p) :
    ∃ (m : Nat) (positive : 0 < m), n = m ∧ p = some ⟨m, positive⟩ := by
  simp only [precisionOf, Option.map_some, Argument.asValue] at h
  split at h
  next positive =>
    cases h
    exact ⟨n.toNat, positive, by omega, rfl⟩
  next => cases h

theorem scaleOf_eq_ok {scale : Option Int} {s : Option Nat}
    (h : scaleOf (scale.map fun n => .data (.int n)) = .ok s) :
    scale = s.map fun n => (n : Int) := by
  cases scale with
  | none =>
    cases h
    rfl
  | some n =>
    simp only [scaleOf, Option.map_some, Argument.asValue] at h
    split at h
    next hn =>
      cases h
      exact congrArg some (Int.toNat_of_nonneg hn).symm
    next => cases h

/-- A precision with a scale, or without one, makes a type of that shape;
a scale that is not given is two. -/
theorem makeTag_decimal_eq_ok {precision : Int} {scale : Option Int} {a : Option Argument}
    {t : ColumnType} (ha : scaleOf a = scaleOf (scale.map fun n => .data (.int n)))
    (h : makeTag .decimal [some (.data (.int precision)), a] = .ok t) :
    ∃ (p s : Nat) (positive : 0 < p) (fits : s ≤ p), precision = p ∧ scale.getD 2 = s ∧
      t = .plain (.decimal (.fixed p s positive fits)) := by
  simp only [makeTag, bind_eq_ok, ha] at h
  obtain ⟨p, hp, s, hs, shape, hshape, ht⟩ := h
  obtain ⟨p, positive, rfl, rfl⟩ := precisionOf_int_eq_ok hp
  obtain rfl := scaleOf_eq_ok hs
  simp only [shapeOf] at hshape
  split at hshape
  next fits =>
    cases hshape
    cases ht
    exact ⟨p, s.getD 2, positive, fits, rfl, by cases s <;> rfl, rfl⟩
  next => cases hshape

/-- A decimal type of a precision and a scale, which is two if it is not
given, accepts a number other than zero exactly where none of its digits
lies beyond the scale and the number is below the power of ten that the
precision leaves. Each of these numbers is a whole number of units of the
last place with no more digits than the precision, so the SQL type of
that precision and scale stores it as it is. -/
theorem decimal_accepts_eq {precision : Int} {scale : Option Int} {t : ColumnType}
    (h : makeTag .decimal [some (.data (.int precision)), scale.map fun n => .data (.int n)] =
      .ok t) (negative : Bool) {coefficient : Nat} (hc : coefficient ≠ 0) (exponent : Int) :
    let s := scale.getD 2
    let d := Decimal.finite negative coefficient exponent
    t.accepts (.decimal d) = .ok (decide (-s ≤ exponent ∧ |d.toRat| < 10 ^ (precision - s))) ∧
      (∀ v, t.kind.sqlType v = s!"DECIMAL({precision},{s})") ∧
      (t.accepts (.decimal d) = .ok true →
        ∃ k : ℤ, d.toRat = k * 10 ^ (-s) ∧ (|k| : ℚ) < 10 ^ precision) := by
  obtain ⟨p, s, positive, fits, rfl, hs, rfl⟩ := makeTag_decimal_eq_ok rfl h
  rw [hs]
  intro _ d
  have haccepts : (ColumnType.plain (.decimal (.fixed p s positive fits))).accepts (.decimal d) =
      .ok (decide (-(s : Int) ≤ exponent ∧ |d.toRat| < 10 ^ ((p : Int) - s))) := by
    refine congrArg Except.ok (Bool.eq_iff_iff.mpr ?_)
    rw [decide_eq_true_iff]
    exact DecimalShape.holds_fixed_iff positive fits negative hc exponent
  refine ⟨haccepts, fun _ => rfl, fun hd => ?_⟩
  rw [haccepts] at hd
  obtain ⟨hplaces, hbelow⟩ := of_decide_eq_true (Except.ok.inj hd)
  obtain ⟨k, hk⟩ := Decimal.toRat_eq_mul_zpow negative coefficient hplaces
  have hunit : (0 : ℚ) < 10 ^ (-(s : Int)) := zpow_pos (by norm_num) _
  refine ⟨k, hk, ?_⟩
  rw [hk, abs_mul, abs_of_pos hunit, sub_eq_add_neg, zpow_add₀ (by norm_num)] at hbelow
  exact lt_of_mul_lt_mul_right hbelow hunit.le

/-- A column of four digits, of which two stand after the point, holds
-99.99 but not a hundred, although that is written with one digit. -/
theorem decimal_accepts_eq_price :
    let t := ColumnType.plain (.decimal (.fixed 4 2 (by decide) (by decide)))
    makeTag .decimal [some (.data (.int 4)), (none : Option Int).map fun n => .data (.int n)] =
        .ok t ∧
      t.accepts (.decimal (.finite false 1 2)) = .ok false ∧
      t.accepts (.decimal (.finite true 9999 (-2))) = .ok true ∧
      ∃ k : ℤ, (Decimal.finite true 9999 (-2)).toRat = k * 10 ^ (-2 : ℤ) ∧ (|k| : ℚ) < 10 ^ 4 := by
  intro t
  have ht : makeTag .decimal [some (.data (.int 4)),
      (none : Option Int).map fun n => .data (.int n)] = .ok t := rfl
  obtain ⟨hundred, -, -⟩ := decimal_accepts_eq ht false (one_ne_zero' Nat) 2
  obtain ⟨-, -, hprice⟩ := decimal_accepts_eq ht true (show 9999 ≠ 0 by decide) (-2)
  have hlarge : ¬ |(Decimal.finite false 1 2).toRat| < 10 ^ ((4 : ℤ) - 2) := by
    norm_num [Decimal.toRat]
  refine ⟨ht, hundred.trans (congrArg Except.ok (decide_eq_false fun h => hlarge h.2)), rfl,
    hprice rfl⟩

end Polyschema
