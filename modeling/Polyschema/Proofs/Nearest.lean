/-
Polyschema.Proofs.Nearest — a binary number is the one nearest to the
decimal that writes it.

The shortest decimal lies among the reals that are read back as the
number. Such a real is rounded at the step of the number itself, or at
half that step where it lies below a power of two.

* `Binary64.InFormat` — the numbers that 64 bits can hold.
* `ReadBack.Holds` — a rational that is read back.
* `ofRatio_eq`, `ofDecimal_eq` — such a rational is rounded to the number.
* `ofDecimal_written` — so is the decimal that the text of a number writes.
-/
import Polyschema.Proofs.FloatText

namespace Polyschema.Number

/-! ## Numbers of the format -/

/-- A number of the format: no bit of its units below the 53 that are
significant is set. -/
def Binary64.InFormat : Binary64 → Prop
  | finite _ units => units < unitLimit ∧ Nat.pow 2 (spareBits units) ∣ units
  | _ => True

instance (x : Binary64) : Decidable x.InFormat :=
  match x with
  | .finite _ _ => inferInstanceAs (Decidable (_ ∧ _))
  | .nan | .infinite _ => inferInstanceAs (Decidable True)

/-- The units of a number of the format, as its significand and a power of
two. -/
theorem significand_bounds {units : Nat} (hu : 0 < units)
    (hd : Nat.pow 2 (Binary64.spareBits units) ∣ units) :
    ∃ m, units = m * 2 ^ Binary64.spareBits units ∧ m < 2 ^ 53 ∧
      (0 < Binary64.spareBits units → 2 ^ 52 ≤ m) := by
  obtain ⟨m, hm⟩ := hd
  rw [Nat.pow_eq] at hm
  have hpow : 0 < 2 ^ Binary64.spareBits units := Nat.pow_pos (by decide)
  refine ⟨m, hm.trans (mul_comm ..), ?_, fun hspare => ?_⟩
  · have hlt := (neighbourStep_bounds hu).2
    unfold neighbourStep at hlt
    rw [Nat.pow_eq] at hlt
    generalize 2 ^ Binary64.spareBits units = step at *
    rw [hm, mul_comm step] at hlt
    exact Nat.lt_of_mul_lt_mul_right hlt
  · have hle : 2 ^ units.log2 ≤ units := Nat.log2_self_le (by omega)
    have hsplit : 2 ^ units.log2 = 2 ^ 52 * 2 ^ Binary64.spareBits units := by
      rw [← pow_add]
      unfold Binary64.spareBits at hspare ⊢
      congr 1
      omega
    generalize 2 ^ Binary64.spareBits units = step at *
    rw [hsplit, hm, mul_comm step] at hle
    exact Nat.le_of_mul_le_mul_right hle hpow

/-! ## Rounding -/

/-- The whole number next to a quotient; of two that are equally near, the
even one. -/
theorem roundHalfEven_eq {num den n : Nat} (hlow : 2 * (n * den) ≤ 2 * num + den)
    (hhigh : 2 * num ≤ 2 * (n * den) + den)
    (htie : n % 2 = 0 ∨ 2 * (n * den) < 2 * num + den ∧ 2 * num < 2 * (n * den) + den)
    (hden : 0 < den) : roundHalfEven num den = n := by
  have hsplit : num / den * den + num % den = num := Nat.div_add_mod' num den
  have hrest : num % den < den := Nat.mod_lt _ hden
  have habove : n * den < (num / den + 2) * den := by
    rw [Nat.add_mul]
    omega
  have hbelow : num / den * den < (n + 1) * den := by
    rw [Nat.add_mul]
    omega
  have hle : n < num / den + 2 := Nat.lt_of_mul_lt_mul_right habove
  have hge : num / den < n + 1 := Nat.lt_of_mul_lt_mul_right hbelow
  unfold roundHalfEven
  dsimp only
  generalize num / den = low at *
  generalize num % den = rest at *
  obtain rfl | rfl : n = low ∨ n = low + 1 := by omega
  · split
    · rfl
    · split
      · omega
      · rw [if_pos (by omega)]
  · rw [Nat.add_mul, one_mul] at *
    split
    · omega
    · split
      · rfl
      · split
        · omega
        · rfl

/-- The spare bits of a number between two powers of two. -/
theorem spareBits_eq {q spare : Nat} (hlow : 2 ^ (52 + spare) ≤ q)
    (hhigh : q < 2 ^ (53 + spare)) : Binary64.spareBits q = spare := by
  have hne : q ≠ 0 := by
    have := Nat.pow_pos (n := 52 + spare) (show 0 < 2 by decide)
    omega
  have hlog : q.log2 = 52 + spare := by
    rw [Nat.log2_eq_iff hne]
    exact ⟨hlow, by rwa [show 52 + spare + 1 = 53 + spare by omega]⟩
  rw [Binary64.spareBits, hlog, Nat.add_sub_cancel_left]

theorem spareBits_eq_zero {q : Nat} (h : q < 2 ^ 53) : Binary64.spareBits q = 0 := by
  unfold Binary64.spareBits
  by_cases hq : q = 0
  · rw [hq]
    rfl
  · have := (Nat.log2_lt hq).mpr h
    omega

theorem ofRatio_def (negative : Bool) (num den : Nat) :
    Binary64.ofRatio negative num den =
      let step := Nat.pow 2 (Binary64.spareBits (num * unitsOfOne / den))
      let units := roundHalfEven (num * unitsOfOne) (den * step) * step
      if Binary64.unitLimit ≤ units then .infinite negative else .finite negative units := by
  unfold Binary64.ofRatio unitsOfOne
  rfl

/-- A quotient is rounded to a number of units that is a multiple of its
step, if it is nowhere further from it than half a step. -/
theorem ofRatio_of_step {num den units spare n : Nat} {negative : Bool} (hden : 0 < den)
    (hspare : Binary64.spareBits (num * unitsOfOne / den) = spare) (hn : n * 2 ^ spare = units)
    (hlimit : units < Binary64.unitLimit)
    (hlow : 2 * (units * den) ≤ 2 * (num * unitsOfOne) + 2 ^ spare * den)
    (hhigh : 2 * (num * unitsOfOne) ≤ 2 * (units * den) + 2 ^ spare * den)
    (htie : n % 2 = 0 ∨ 2 * (units * den) < 2 * (num * unitsOfOne) + 2 ^ spare * den ∧
      2 * (num * unitsOfOne) < 2 * (units * den) + 2 ^ spare * den) :
    Binary64.ofRatio negative num den = .finite negative units := by
  have hmul : n * (2 ^ spare * den) = units * den := by rw [← mul_assoc, hn]
  have hround : roundHalfEven (num * unitsOfOne) (2 ^ spare * den) = n := by
    rw [← hmul] at hlow hhigh htie
    exact roundHalfEven_eq hlow hhigh htie (Nat.mul_pos (Nat.pow_pos (by decide)) hden)
  rw [ofRatio_def, hspare, Nat.pow_eq]
  dsimp only
  rw [mul_comm den, hround, hn, if_neg (Nat.not_le.mpr hlimit)]

/-- A rational, in quarters of a unit, that is read back as a number. -/
def ReadBack.Holds (bounds : ReadBack) (quarters : ℚ) : Prop :=
  if bounds.closed then bounds.low ≤ quarters ∧ quarters ≤ bounds.high
  else bounds.low < quarters ∧ quarters < bounds.high

/-- A quotient that is read back, by whole numbers. -/
theorem ReadBack.Holds.nat {bounds : ReadBack} {num den : Nat} (hden : 0 < den)
    (h : bounds.Holds ((num : ℚ) / den)) :
    bounds.low * den ≤ num ∧ num ≤ bounds.high * den ∧
      (bounds.closed = true ∨ bounds.low * den < num ∧ num < bounds.high * den) := by
  have hpos : (0 : ℚ) < den := by exact_mod_cast hden
  unfold Holds at h
  split at h
  next hclosed =>
    rw [le_div_iff₀ hpos, div_le_iff₀ hpos] at h
    exact ⟨by exact_mod_cast h.1, by exact_mod_cast h.2, .inl hclosed⟩
  next =>
    rw [lt_div_iff₀ hpos, div_lt_iff₀ hpos] at h
    have hlow : bounds.low * den < num := by exact_mod_cast h.1
    have hhigh : num < bounds.high * den := by exact_mod_cast h.2
    exact ⟨hlow.le, hhigh.le, .inr ⟨hlow, hhigh⟩⟩

/-- The reals that are read back as a number with a given significand. -/
theorem readBack_eq {units m : Nat} (hm : units = m * 2 ^ Binary64.spareBits units) :
    readBack units = {
      low := 4 * units - if m = 2 ^ 52 ∧ 0 < Binary64.spareBits units then
          2 ^ Binary64.spareBits units
        else 2 * 2 ^ Binary64.spareBits units
      high := 4 * units + 2 * 2 ^ Binary64.spareBits units
      closed := m % 2 == 0 } := by
  have hpow : 0 < 2 ^ Binary64.spareBits units := Nat.pow_pos (by decide)
  have hquotient : units / 2 ^ Binary64.spareBits units = m := by
    generalize 2 ^ Binary64.spareBits units = step at *
    rw [hm, Nat.mul_div_cancel _ hpow]
  unfold readBack
  dsimp only
  rw [Nat.pow_eq, hquotient]
  rfl

/-- A quotient that is read back as a number of the format is rounded to
it. -/
theorem ofRatio_eq {num den units : Nat} {negative : Bool} (hden : 0 < den) (hu : 0 < units)
    (hf : (Binary64.finite negative units).InFormat)
    (h : (readBack units).Holds ((4 * (num * unitsOfOne) : Nat) / den)) :
    Binary64.ofRatio negative num den = .finite negative units := by
  obtain ⟨hlimit, hdvd⟩ := hf
  obtain ⟨m, hm, hbelow, habove⟩ := significand_bounds hu hdvd
  obtain ⟨hlow, hhigh, htie⟩ := h.nat hden
  rw [readBack_eq hm] at hlow hhigh htie
  simp only [Nat.add_mul, Nat.sub_mul, mul_assoc, beq_iff_eq] at hlow hhigh htie
  have hround := @ofRatio_of_step num den units
  -- from here on only the quotient, the number and its step matter
  have hunits : units * den = m * (2 ^ Binary64.spareBits units * den) := by
    rw [← mul_assoc, ← hm]
  have hmost : (m + 1) * (2 ^ Binary64.spareBits units * den) ≤
      2 ^ 53 * (2 ^ Binary64.spareBits units * den) := Nat.mul_le_mul_right _ hbelow
  rw [Nat.add_mul, one_mul, ← hunits] at hmost
  have hpos : 0 < 2 ^ Binary64.spareBits units * den :=
    Nat.mul_pos (Nat.pow_pos (by decide)) hden
  generalize num * unitsOfOne = scaled at *
  generalize Binary64.spareBits units = spare at *
  have hspare {k : Nat} (hleast : 0 < k → 2 ^ 52 * (2 ^ k * den) ≤ scaled)
      (hmost : scaled < 2 ^ 53 * (2 ^ k * den)) : Binary64.spareBits (scaled / den) = k := by
    rw [← mul_assoc, ← pow_add] at hleast hmost
    rw [← Nat.div_lt_iff_lt_mul hden] at hmost
    rw [← Nat.le_div_iff_mul_le hden] at hleast
    rcases Nat.eq_zero_or_pos k with rfl | hk
    · exact spareBits_eq_zero hmost
    · exact spareBits_eq (hleast hk) hmost
  by_cases hup : units * den ≤ scaled
  · refine hround hden (hspare (fun hk => ?_) (by omega)) hm.symm hlimit (by omega) (by omega)
      (by omega)
    have := Nat.mul_le_mul_right (2 ^ spare * den) (habove hk)
    omega
  · by_cases hpower : m = 2 ^ 52 ∧ 0 < spare
    · -- below a power of two the step is half as long
      obtain ⟨k, rfl⟩ : ∃ k, spare = k + 1 := ⟨spare - 1, by omega⟩
      rw [if_pos hpower] at hlow htie
      have hstep : 2 ^ (k + 1) * den = 2 * (2 ^ k * den) := by rw [pow_succ]; ring
      rw [hpower.1] at hunits
      rw [hstep] at hlow hhigh hunits htie hpos
      refine hround hden (hspare (k := k) (fun _ => ?_) ?_) (n := 2 ^ 53) ?_ hlimit ?_ ?_ ?_
      · omega
      · omega
      · rw [hm, hpower.1, pow_succ]
        ring
      · omega
      · omega
      · omega
    · rw [if_neg hpower, mul_assoc] at hlow htie
      refine hround hden (hspare (fun hk => ?_) (by omega)) hm.symm hlimit (by omega) (by omega)
        (by omega)
      have hnext : 2 ^ 52 + 1 ≤ m := by
        have := habove hk
        have hne : m ≠ 2 ^ 52 := fun heq => hpower ⟨heq, hk⟩
        omega
      have := Nat.mul_le_mul_right (2 ^ spare * den) hnext
      rw [Nat.add_mul, one_mul] at this
      omega

/-! ## The shortest decimal -/

/-- A whole number of parts that is read back. -/
theorem ReadBack.Holds.of_parts {bounds : ReadBack} {here : Nat} (h : bounds.holds here = true) :
    bounds.Holds ((here : ℚ) / scale) := by
  have hpos : (0 : ℚ) < scale := by exact_mod_cast scale_pos
  unfold ReadBack.holds at h
  unfold ReadBack.Holds
  dsimp only at h
  split at h
  next hclosed =>
    rw [Bool.and_eq_true, decide_eq_true_eq, decide_eq_true_eq] at h
    rw [if_pos hclosed, le_div_iff₀ hpos, div_le_iff₀ hpos]
    exact ⟨by exact_mod_cast h.1, by exact_mod_cast h.2⟩
  next hopen =>
    rw [Bool.and_eq_true, decide_eq_true_eq, decide_eq_true_eq] at h
    rw [if_neg hopen, lt_div_iff₀ hpos, div_lt_iff₀ hpos]
    exact ⟨by exact_mod_cast h.1, by exact_mod_cast h.2⟩

/-- The shortest decimal is read back. -/
theorem holds_shortest {units : Nat} (hu : 0 < units) :
    (readBack units).Holds (4 * unitsOfOne * (shortest units).toRat) := by
  obtain ⟨k, n, hpos, hmost, hn, -, hshortest⟩ := shortest_eq hu
  have hholds := ReadBack.Holds.of_parts (onGrid?_eq_some hn).2
  have hten : (10 : ℚ) ≠ 0 := by norm_num
  have hroom := hmost.trans (seventeen_le_leadingPlace hu)
  have hleading := leadingExponent_eq units
  have htens (places : Nat) : ((Nat.pow 10 places : Nat) : ℚ) = 10 ^ (places : ℤ) := by
    rw [Nat.pow_eq, Nat.cast_pow, Nat.cast_ofNat, zpow_natCast]
  obtain ⟨places, hplaces⟩ : ∃ places, places = 400 := ⟨_, rfl⟩
  have hscale : (scale : ℚ) = 10 ^ (places : ℤ) := by
    unfold scale
    rw [← hplaces]
    exact htens places
  have hgrid : ((n * gridStep (leadingExponent units) k : Nat) : ℚ) / scale =
      4 * unitsOfOne * (n * 10 ^ (leadingExponent units + 1 - k)) := by
    have hpower : (10 : ℚ) ^ (leadingExponent units + 1 - k) =
        10 ^ (leadingPlace units - k) / 10 ^ (places : ℤ) := by
      rw [← zpow_natCast, ← zpow_sub₀ hten]
      refine congrArg ((10 : ℚ) ^ ·) ?_
      omega
    rw [gridStep_leading units hroom, hscale, hpower]
    push_cast
    ring
  have hvalue : (shortest units).toRat = n * 10 ^ (leadingExponent units + 1 - k) := by
    rw [hshortest]
    split
    next heq =>
      have hsplit : (10 : ℚ) ^ (leadingExponent units + 1) =
          10 ^ k * 10 ^ (leadingExponent units + 1 - k) := by
        rw [← zpow_natCast, ← zpow_add₀ hten]
        refine congrArg ((10 : ℚ) ^ ·) ?_
        omega
      simp only [Digits.toRat, Digits.lastPlace, heq, Nat.pow_eq]
      push_cast
      rw [one_mul, ← hsplit]
      refine congrArg ((10 : ℚ) ^ ·) ?_
      omega
    next => rfl
  rwa [hgrid, ← hvalue] at hholds

/-- A decimal that is read back as a number of the format is read as that
number. -/
theorem ofDecimal_eq {coefficient units : Nat} {exponent : Int} {negative : Bool}
    (hc : coefficient ≠ 0) (hleast : -400 ≤ digitCount coefficient + exponent)
    (hmost : digitCount coefficient + exponent ≤ 400) (hu : 0 < units)
    (hf : (Binary64.finite negative units).InFormat)
    (h : (readBack units).Holds (4 * unitsOfOne * (coefficient * 10 ^ exponent))) :
    Binary64.ofDecimal negative coefficient exponent = .finite negative units := by
  have hquotient : ((4 * (coefficient * Nat.pow 10 exponent.toNat * unitsOfOne) : Nat) : ℚ) /
      (Nat.pow 10 (-exponent).toNat : Nat) = 4 * unitsOfOne * (coefficient * 10 ^ exponent) := by
    have hpower : (10 : ℚ) ^ exponent = 10 ^ exponent.toNat / 10 ^ (-exponent).toNat := by
      rw [← zpow_natCast, ← zpow_natCast, ← zpow_sub₀ (by norm_num)]
      refine congrArg ((10 : ℚ) ^ ·) ?_
      omega
    rw [hpower, Nat.pow_eq, Nat.pow_eq]
    push_cast
    ring
  have hden : 0 < Nat.pow 10 (-exponent).toNat := Nat.pow_pos (by decide)
  unfold Binary64.ofDecimal
  dsimp only
  rw [if_neg (by rw [Int.ofNat_eq_natCast]; omega), if_neg (by rw [Int.ofNat_eq_natCast]; omega)]
  exact ofRatio_eq hden hu hf (by rwa [hquotient])

/-- The decimal that the text of a number of the format writes is read as
that number. -/
theorem ofDecimal_written {units : Nat} {negative : Bool} (hu : 0 < units)
    (hf : (Binary64.finite negative units).InFormat) :
    Binary64.ofDecimal negative (shortest units).written.1 (shortest units).written.2 =
      .finite negative units := by
  have hcanonical := canonical_shortest hu
  obtain ⟨hleast, hmost⟩ := shortest_exponent hu hf.1
  obtain ⟨hlow, hhigh⟩ := hcanonical.toRat_bounds
  have hvalue := Digits.toRat_written (shortest units) false
  have habs : |(Decimal.finite false (shortest units).written.1
      (shortest units).written.2).toRat| = (shortest units).toRat := by
    rw [hvalue, if_neg (by decide), one_mul]
    exact abs_of_pos ((zpow_pos (by norm_num) _).trans_le hlow)
  have hne : (shortest units).written.1 ≠ 0 := by
    intro hzero
    rw [Decimal.abs_toRat, hzero, Nat.cast_zero, zero_mul] at habs
    rw [← habs] at hlow
    exact absurd hlow (not_le.mpr (zpow_pos (by norm_num) _))
  have hcount : digitCount (shortest units).written.1 + (shortest units).written.2 =
      (shortest units).exponent + 1 := by
    refine le_antisymm ?_ (Int.add_one_le_of_lt (not_le.mp fun hle => ?_))
    · rw [← Decimal.abs_toRat_lt_iff false hne, habs]
      exact hhigh
    · rw [← Decimal.abs_toRat_lt_iff false hne, habs] at hle
      exact absurd hlow (not_le.mpr hle)
  refine ofDecimal_eq hne (by omega) (by omega) hu hf ?_
  rw [← Decimal.abs_toRat false, habs]
  exact holds_shortest hu

end Polyschema.Number
