/-
Polyschema.Proofs.WholeFloat — whole numbers in a float column.

A whole number is widened to the binary number nearest to it. The law of
the codec holds of it where no rounding takes place, and the check fails
where the rounding leaves the format.

* `roundedUnits` — a number of units rounded to one of the format.
* `roundedUnits_nearest` — no number of the format is nearer.
* `roundedUnits_eq_iff` — nothing is rounded where no bit is spare.
* `unitLimit_le_roundedUnits_iff` — what is too large for the format.
* `float_widens_whole` — what becomes of every whole number.
-/
import Mathlib.Data.Nat.Dist
import Polyschema.Proofs.JsonEqual
import Polyschema.Proofs.Nearest
import Polyschema.Proofs.RoundTrip

namespace Polyschema.Number

/-! ## Rounded quotients -/

/-- A rounded quotient is at most half a step away from the exact one, and
less if it is odd. -/
theorem roundHalfEven_bounds (num : Nat) {den n : Nat} (pos : 0 < den)
    (hn : roundHalfEven num den = n) :
    2 * (n * den) ≤ 2 * num + den ∧ 2 * num ≤ 2 * (n * den) + den ∧
      (n % 2 = 0 ∨ 2 * (n * den) < 2 * num + den ∧ 2 * num < 2 * (n * den) + den) := by
  have hsplit : num / den * den + num % den = num := Nat.div_add_mod' num den
  have hrest : num % den < den := Nat.mod_lt _ pos
  unfold roundHalfEven at hn
  dsimp only at hn
  generalize num / den = low at *
  generalize num % den = rest at *
  split at hn
  · subst hn
    omega
  · split at hn
    · subst hn
      rw [Nat.add_mul, one_mul]
      omega
    · split at hn
      · subst hn
        omega
      · subst hn
        rw [Nat.add_mul, one_mul]
        omega

/-- Rounding does not go past a multiple. -/
theorem le_roundHalfEven {num den k : Nat} (pos : 0 < den) (h : k * den ≤ num) :
    k ≤ roundHalfEven num den := by
  obtain ⟨-, hhigh, -⟩ := roundHalfEven_bounds num pos rfl
  by_contra hlt
  have := Nat.mul_le_mul_right den (not_le.mp hlt)
  rw [Nat.succ_mul] at this
  omega

theorem roundHalfEven_le {num den k : Nat} (pos : 0 < den) (h : num ≤ k * den) :
    roundHalfEven num den ≤ k := by
  obtain ⟨hlow, -⟩ := roundHalfEven_bounds num pos rfl
  by_contra hlt
  have := Nat.mul_le_mul_right den (not_le.mp hlt)
  rw [Nat.succ_mul] at this
  omega

/-- No multiple is nearer than the rounded one. -/
theorem roundHalfEven_nearest (num : Nat) {den : Nat} (pos : 0 < den) (k : Nat) :
    Nat.dist num (roundHalfEven num den * den) ≤ Nat.dist num (k * den) := by
  obtain ⟨hlow, hhigh, -⟩ := roundHalfEven_bounds num pos rfl
  have hside {a b : Nat} (h : a < b) : a * den + den ≤ b * den := by
    rw [← Nat.succ_mul]
    exact Nat.mul_le_mul_right den h
  generalize roundHalfEven num den = n at *
  unfold Nat.dist
  rcases Nat.lt_trichotomy k n with h | rfl | h
  · have := hside h
    omega
  · exact le_rfl
  · have := hside h
    omega

/-! ## Rounded units -/

/-- A number of units rounded to 53 significant bits. -/
def roundedUnits (total : Nat) : Nat :=
  roundHalfEven total (2 ^ Binary64.spareBits total) * 2 ^ Binary64.spareBits total

/-- A whole number is rounded by its units. -/
theorem ofRatio_one (negative : Bool) (n : Nat) :
    Binary64.ofRatio negative n 1 =
      if Binary64.unitLimit ≤ roundedUnits (n * unitsOfOne) then .infinite negative
      else .finite negative (roundedUnits (n * unitsOfOne)) := by
  rw [ofRatio_def]
  dsimp only
  rw [Nat.div_one, one_mul, Nat.pow_eq]
  rfl

/-- A number of units between the powers of two that its spare bits tell. -/
theorem spareBits_bounds (total : Nat) :
    total < 2 ^ 53 * 2 ^ Binary64.spareBits total ∧
      (0 < Binary64.spareBits total → 2 ^ 52 * 2 ^ Binary64.spareBits total ≤ total) := by
  rcases Nat.eq_zero_or_pos total with rfl | hpos
  · decide
  · refine ⟨(neighbourStep_bounds hpos).2, fun hspare => ?_⟩
    have hle : 2 ^ total.log2 ≤ total := Nat.log2_self_le (by omega)
    rw [← pow_add]
    unfold Binary64.spareBits at hspare ⊢
    rwa [Nat.add_sub_cancel' (by omega)]

theorem spareBits_le {total spare : Nat} (h : total < 2 ^ (53 + spare)) :
    Binary64.spareBits total ≤ spare := by
  rcases Nat.eq_zero_or_pos total with rfl | hpos
  · exact Nat.zero_le _
  · have := (Nat.log2_lt (by omega)).mpr h
    unfold Binary64.spareBits
    omega

/-- What has at most 53 significant bits keeps them all. -/
theorem pow_spareBits_dvd {m : Nat} (h : m ≤ 2 ^ 53) (spare : Nat) :
    2 ^ Binary64.spareBits (m * 2 ^ spare) ∣ m * 2 ^ spare := by
  rcases h.lt_or_eq with hlt | rfl
  · refine (Nat.pow_dvd_pow 2 (spareBits_le ?_)).mul_left m
    rw [pow_add]
    exact Nat.mul_lt_mul_of_pos_right hlt (Nat.two_pow_pos _)
  · rw [← pow_add]
    exact Nat.pow_dvd_pow 2 ((spareBits_le (Nat.pow_lt_pow_right (by decide)
      (show 53 + spare < 53 + (1 + spare) by omega))).trans (by omega))

/-- The significand that units are rounded to. -/
theorem roundedUnits_eq (total : Nat) :
    ∃ m ≤ 2 ^ 53, roundedUnits total = m * 2 ^ Binary64.spareBits total :=
  ⟨_, roundHalfEven_le (Nat.two_pow_pos _) (spareBits_bounds total).1.le, rfl⟩

theorem inFormat_roundedUnits {total : Nat} {negative : Bool}
    (h : roundedUnits total < Binary64.unitLimit) :
    (Binary64.finite negative (roundedUnits total)).InFormat := by
  refine ⟨h, ?_⟩
  obtain ⟨m, hm, heq⟩ := roundedUnits_eq total
  rw [heq, Nat.pow_eq]
  exact pow_spareBits_dvd hm _

/-- Nothing is rounded where the spare bits are not set. -/
theorem roundedUnits_eq_iff (total : Nat) :
    roundedUnits total = total ↔ 2 ^ Binary64.spareBits total ∣ total := by
  constructor
  · intro h
    obtain ⟨m, -, heq⟩ := roundedUnits_eq total
    exact ⟨m, by rw [mul_comm, ← heq, h]⟩
  · rintro ⟨m, hm⟩
    unfold roundedUnits
    have hpos : 0 < 2 ^ Binary64.spareBits total := Nat.two_pow_pos _
    generalize 2 ^ Binary64.spareBits total = step at *
    rw [hm, mul_comm step, roundHalfEven_mul m hpos]

/-- A number of the format lies on the grid of the spare bits, or below
where the grid begins. -/
theorem units_on_grid {units : Nat} (h : 2 ^ Binary64.spareBits units ∣ units) (spare : Nat) :
    2 ^ spare ∣ units ∨ 0 < spare ∧ units < 2 ^ 52 * 2 ^ spare := by
  rcases Nat.lt_or_ge (Binary64.spareBits units) spare with hlt | hge
  · refine .inr ⟨by omega, (spareBits_bounds units).1.trans_le ?_⟩
    rw [← pow_add, ← pow_add]
    exact Nat.pow_le_pow_right (by decide) (by omega)
  · exact .inl ((Nat.pow_dvd_pow 2 hge).trans h)

/-- No number of the format is nearer than the rounded one. -/
theorem roundedUnits_nearest (total : Nat) {units : Nat}
    (h : 2 ^ Binary64.spareBits units ∣ units) :
    Nat.dist total (roundedUnits total) ≤ Nat.dist total units := by
  have hgrid := roundHalfEven_nearest total (Nat.two_pow_pos (Binary64.spareBits total))
  obtain ⟨k, hk⟩ | ⟨hspare, hbelow⟩ := units_on_grid h (Binary64.spareBits total)
  · rw [hk, mul_comm _ k]
    exact hgrid k
  · -- the beginning of the grid lies between
    have hleast := (spareBits_bounds total).2 hspare
    refine (hgrid (2 ^ 52)).trans ?_
    unfold Nat.dist
    omega

/-- Units that are rounded to more than the format holds. -/
theorem unitLimit_le_roundedUnits_iff (total : Nat) :
    Binary64.unitLimit ≤ roundedUnits total ↔ (2 ^ 54 - 1) * 2 ^ 2044 ≤ total := by
  have hlimit : Binary64.unitLimit = 2 ^ 54 * 2 ^ 2044 := by decide +kernel
  rw [hlimit]
  unfold roundedUnits
  have hpos : 0 < 2 ^ Binary64.spareBits total := Nat.two_pow_pos _
  obtain ⟨hmost, hleast⟩ := spareBits_bounds total
  obtain ⟨hlow, hhigh, htie⟩ := roundHalfEven_bounds total hpos rfl
  have hnormal (h : 0 < Binary64.spareBits total) := le_roundHalfEven hpos (hleast h)
  have hside {a b : Nat} (h : a ≤ b) := Nat.mul_le_mul_right (2 ^ Binary64.spareBits total) h
  generalize roundHalfEven total (2 ^ Binary64.spareBits total) = m at *
  generalize Binary64.spareBits total = spare at *
  generalize 2044 = last
  have hbelow (h : spare ≤ last) : 2 ^ spare ≤ 2 ^ last := Nat.pow_le_pow_right (by decide) h
  have hat (h : spare = last + 1) : 2 ^ spare = 2 * 2 ^ last := by rw [h, pow_succ']
  have habove (h : last + 2 ≤ spare) : 4 * 2 ^ last ≤ 2 ^ spare := by
    rw [show 4 = 2 ^ 2 by rfl, ← pow_add]
    exact Nat.pow_le_pow_right (by decide) (by omega)
  generalize 2 ^ spare = step at *
  generalize 2 ^ last = half at *
  obtain hspare | hspare | hspare : spare ≤ last ∨ spare = last + 1 ∨ last + 2 ≤ spare := by omega
  · have := hbelow hspare
    omega
  · have := hat hspare
    -- the significands that decide are the greatest, which is odd, and the one after it
    obtain hm | rfl | hm : 2 ^ 53 ≤ m ∨ m = 2 ^ 53 - 1 ∨ m + 1 ≤ 2 ^ 53 - 1 := by omega
    · have := hside hm
      omega
    · omega
    · have := hside hm
      rw [Nat.succ_mul] at this
      omega
  · have := habove hspare
    have := hside (hnormal (by omega))
    have := hleast (by omega)
    omega

/-! ## Whole numbers -/

theorem unitsOfOne_eq : unitsOfOne = 2 ^ Binary64.unitExponent := by
  unfold unitsOfOne
  generalize Binary64.unitExponent = unit
  exact Nat.pow_eq

/-- The least whole number that is too large for a float column: halfway
between the largest number of the format and the next power of two. -/
def wholeLimit : Nat := Nat.pow 2 1024 - Nat.pow 2 970

/-- A whole number of at most 53 significant bits. -/
def FitsSignificand (n : Nat) : Prop := ∃ m k, n = m * 2 ^ k ∧ m < 2 ^ 53

/-- The whole numbers whose units are not rounded. -/
theorem roundedUnits_whole_iff (n : Nat) :
    roundedUnits (n * unitsOfOne) = n * unitsOfOne ↔ FitsSignificand n := by
  rw [roundedUnits_eq_iff, unitsOfOne_eq]
  generalize Binary64.unitExponent = unit
  constructor
  · intro h
    rcases Nat.eq_zero_or_pos n with rfl | hpos
    · exact ⟨0, 0, by decide, by decide⟩
    obtain ⟨m, hm, hbound, -⟩ := significand_bounds (Nat.mul_pos hpos (Nat.two_pow_pos _)) h
    generalize Binary64.spareBits (n * 2 ^ unit) = spare at *
    rcases Nat.le_total unit spare with hle | hle
    · refine ⟨m, spare - unit, ?_, hbound⟩
      refine Nat.eq_of_mul_eq_mul_right (Nat.two_pow_pos unit) ?_
      rw [hm, mul_assoc, ← pow_add, Nat.sub_add_cancel hle]
    · refine ⟨n, 0, (mul_one n).symm, ?_⟩
      have hsplit : n * 2 ^ (unit - spare) = m := by
        refine Nat.eq_of_mul_eq_mul_right (Nat.two_pow_pos spare) ?_
        rw [← hm, mul_assoc, ← pow_add, Nat.sub_add_cancel hle]
      exact (Nat.le_mul_of_pos_right n (Nat.two_pow_pos _)).trans_lt (hsplit.trans_lt hbound)
  · rintro ⟨m, k, rfl, hm⟩
    rw [mul_assoc, ← pow_add]
    exact pow_spareBits_dvd hm.le _

/-- The whole numbers that are rounded to more than the format holds. -/
theorem unitLimit_le_roundedUnits_whole_iff (n : Nat) :
    Binary64.unitLimit ≤ roundedUnits (n * unitsOfOne) ↔ wholeLimit ≤ n := by
  have hlimit : (2 ^ 54 - 1) * 2 ^ 2044 = wholeLimit * unitsOfOne := by decide +kernel
  rw [unitLimit_le_roundedUnits_iff, hlimit, Nat.mul_le_mul_right_iff unitsOfOne_pos]

namespace Binary64

/-- No number of the format is nearer to a whole number. -/
def NearestTo (x : Binary64) (n : Int) : Prop :=
  ∃ units, x.signedUnits? = some units ∧
    ∀ (y : Binary64) (other : Int), y.InFormat → y.signedUnits? = some other →
      |n * unitsOfOne - units| ≤ |n * unitsOfOne - other|

/-- The binary number that a whole one is widened to. -/
def ofWhole (n : Int) : Binary64 := finite (n < 0) (roundedUnits (n.natAbs * unitsOfOne))

theorem ofInt?_eq (n : Int) :
    ofInt? n = if wholeLimit ≤ n.natAbs then none else some (ofWhole n) := by
  unfold ofInt?
  rw [ofRatio_one, if_congr (unitLimit_le_roundedUnits_whole_iff _) rfl rfl]
  split <;> rfl

theorem inFormat_ofWhole {n : Int} (h : n.natAbs < wholeLimit) : (ofWhole n).InFormat :=
  inFormat_roundedUnits (not_le.mp fun hle =>
    absurd ((unitLimit_le_roundedUnits_whole_iff _).mp hle) (not_le.mpr h))

theorem ofWhole_nearestTo (n : Int) : (ofWhole n).NearestTo n := by
  refine ⟨_, rfl, fun y other hy hother => ?_⟩
  cases y with
  | finite negative units =>
    have hsame := roundedUnits_nearest (n.natAbs * unitsOfOne) hy.2
    have hnone : 2 ^ spareBits 0 ∣ 0 := Nat.dvd_zero _
    have hzero := roundedUnits_nearest (n.natAbs * unitsOfOne) hnone
    have htotal : ((n.natAbs * unitsOfOne : Nat) : Int) = |n| * unitsOfOne := by
      rw [Nat.cast_mul, Int.natCast_natAbs]
    obtain rfl := Option.some.inj hother
    simp only [decide_eq_true_eq, Int.ofNat_eq_natCast, Int.abs_eq_natAbs]
    generalize n.natAbs * unitsOfOne = total at *
    generalize roundedUnits total = rounded at *
    unfold Nat.dist at hsame hzero
    -- a number of the other sign is no nearer than zero
    rcases Int.lt_or_le n 0 with hn | hn
    · rw [abs_of_neg hn, Int.neg_mul] at htotal
      generalize n * (unitsOfOne : Int) = whole at *
      rw [if_pos hn]
      split <;> omega
    · rw [abs_of_nonneg hn] at htotal
      generalize n * (unitsOfOne : Int) = whole at *
      rw [if_neg (not_lt.mpr hn)]
      split <;> omega
  | _ => cases hother

/-- The units of a whole number, whatever its sign. -/
theorem units_of_toInt? {negative : Bool} {units : Nat} {n : Int}
    (h : (finite negative units).toInt? = some n) : units = n.natAbs * unitsOfOne := by
  have hunits := congrArg (Option.map Int.natAbs) (signedUnits?_of_toInt? h)
  unfold unitsOfOne
  generalize Nat.pow 2 unitExponent = unit at *
  simp only [signedUnits?, Option.map_some, Option.some.injEq, Int.natAbs_mul,
    Int.natAbs_natCast] at hunits
  rw [← hunits]
  cases negative <;> simp

theorem toInt?_finite (negative : Bool) (whole : Nat) :
    (finite negative (whole * unitsOfOne)).toInt? =
      some (if negative then -(whole : Int) else whole) := by
  have hpos := unitsOfOne_pos
  unfold toInt?
  unfold unitsOfOne at *
  generalize Nat.pow 2 unitExponent = unit at *
  dsimp only
  rw [if_pos (Nat.mul_mod_left ..), Nat.mul_div_cancel _ hpos]
  rfl

/-- A whole number is widened to itself where nothing is rounded. -/
theorem toInt?_ofWhole_iff (n : Int) : (ofWhole n).toInt? = some n ↔ FitsSignificand n.natAbs := by
  rw [← roundedUnits_whole_iff]
  constructor
  · exact fun h => units_of_toInt? h
  · intro h
    rw [ofWhole, h, toInt?_finite]
    simp only [decide_eq_true_eq, Option.some.injEq]
    split <;> omega

end Binary64

end Polyschema.Number

namespace Polyschema

open Polyschema.Number

/-! ## Float columns -/

/-- The check lets a whole number through, or fails. -/
theorem accepts_whole (n : Int) :
    (ColumnType.plain .float).accepts (.int n) =
      if wholeLimit ≤ n.natAbs then .error (.misuse .outOfRange) else .ok true := by
  show isFiniteNumber (.int n) = _
  rw [isFiniteNumber, Binary64.ofInt?_eq]
  split <;> rfl

theorem roundTrip_whole {n : Int} (h : n.natAbs < wholeLimit) :
    (ColumnType.plain .float).roundTrip (.int n) = .ok (.float (Binary64.ofWhole n)) := by
  have haccepts := accepts_whole n
  have hwidened := Binary64.ofInt?_eq n
  rw [if_neg (not_le.mpr h)] at haccepts hwidened
  have htaken (x : Binary64) : (ColumnType.plain .float).deserialize (.float x) =
      .ok (.float x) := rfl
  exact roundTrip_of_accepts haccepts (serialize_float_int hwidened) (htaken _)

theorem same_int_iff {x : Binary64} {n : Int} :
    (Value.float x).same (.int n) = true ↔ x.toInt? = some n := by
  simp [Value.same, Value.sameScalar, Value.asInt?, Value.intIsFloat]

/-- What a float column makes of a whole number: the nearest number of the
format, which is the same one where it has no more than 53 significant
bits; and a failure of the check where that is beyond the format. -/
theorem float_widens_whole (n : Int) :
    (n.natAbs < wholeLimit ∧ (ColumnType.plain .float).accepts (.int n) = .ok true ∧
      ∃ x, (ColumnType.plain .float).roundTrip (.int n) = .ok (.float x) ∧ x.InFormat ∧
        x.NearestTo n ∧ ((Value.float x).same (.int n) = true ↔ FitsSignificand n.natAbs)) ∨
    (wholeLimit ≤ n.natAbs ∧
      (ColumnType.plain .float).accepts (.int n) = .error (.misuse .outOfRange) ∧
      (ColumnType.plain .float).roundTrip (.int n) = .error (.misuse .outOfRange)) := by
  have haccepts := accepts_whole n
  rcases Nat.lt_or_ge n.natAbs wholeLimit with h | h
  · rw [if_neg (not_le.mpr h)] at haccepts
    exact .inl ⟨h, haccepts, Binary64.ofWhole n, roundTrip_whole h, Binary64.inFormat_ofWhole h,
      Binary64.ofWhole_nearestTo n, same_int_iff.trans (Binary64.toInt?_ofWhole_iff n)⟩
  · rw [if_pos h] at haccepts
    refine .inr ⟨h, haccepts, ?_⟩
    rw [ColumnType.roundTrip, ColumnType.check, haccepts]
    rfl

/-- The check fails on a whole number of 401 digits. The least one that the
format lacks passes it, and its even neighbour comes back. -/
theorem wide_wholes_escape_law :
    let t := ColumnType.plain .float
    t.accepts (.int (10 ^ 400)) = .error (.misuse .outOfRange) ∧
      t.accepts (.int 9007199254740993) = .ok true ∧
      ∃ w, t.roundTrip (.int 9007199254740993) = .ok w ∧
        w.same (.int 9007199254740992) = true ∧ w.same (.int 9007199254740993) = false := by
  have hwide : wholeLimit ≤ Int.natAbs (10 ^ 400) := by decide +kernel
  have hodd : Int.natAbs 9007199254740993 < wholeLimit := by decide +kernel
  have hback : (Binary64.ofWhole 9007199254740993).toInt? = some 9007199254740992 := by
    decide +kernel
  refine ⟨(accepts_whole _).trans (if_pos hwide), (accepts_whole _).trans (if_neg hodd.not_ge),
    _, roundTrip_whole hodd, same_int_iff.mpr hback, Bool.eq_false_iff.mpr fun h => ?_⟩
  exact absurd (Option.some.inj (hback.symm.trans (same_int_iff.mp h))) (by decide)

end Polyschema
