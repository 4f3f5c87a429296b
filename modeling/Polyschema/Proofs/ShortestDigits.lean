/-
Polyschema.Proofs.ShortestDigits — the digits of the shortest decimal of a
binary number.

Decimals with a fixed number of digits form a grid, of which two stand
beside the number. All of them are measured in the same parts of a unit,
so that natural numbers are enough.

* `parts_bounds` — the decimals beside a number have the digits of their
  grid.
* `onGrid?_seventeen` — one of seventeen digits is read back, since the
  reals that are read back reach further than a step of its grid.
* `not_ten_dvd` — the first that is read back has no zero at its end, for
  without it the decimal is on the coarser grid.
* `canonical_shortest`, `shortest_exponent` — the digits that come of it,
  and where the first of them stands.
-/
import Polyschema.Number.Shortest
import Polyschema.Proofs.Magnitude

namespace Polyschema.Number

variable {units count n : Nat} {exponent : Int}

/-! ## Grids -/

/-- The parts of a quarter of a unit in which decimals are measured. -/
def scale : Nat := Nat.pow 10 400

/-- The units of one. -/
def unitsOfOne : Nat := Nat.pow 2 Binary64.unitExponent

theorem scale_pos : 0 < scale := by decide +kernel

theorem unitsOfOne_pos : 0 < unitsOfOne := by decide +kernel

/-- Whether a real, measured in parts, is read back as a number. -/
def ReadBack.holds (bounds : ReadBack) (here : Nat) : Bool :=
  let least := bounds.low * scale
  let most := bounds.high * scale
  if bounds.closed then least ≤ here && here ≤ most else least < here && here < most

/-- A number of units in these parts. -/
def parts (units : Nat) : Nat := 4 * units * scale

/-- A step of the grid of decimals with so many digits, the first of them
at an exponent, in these parts. -/
def gridStep (exponent : Int) (count : Nat) : Nat :=
  Nat.pow 10 (exponent + 401 - count).toNat * Nat.pow 2 (Binary64.unitExponent + 2)

theorem onGrid?_eq (units : Nat) (exponent : Int) (count : Nat) :
    onGrid? units exponent count =
      let step := gridStep exponent count
      let low := parts units / step
      match (readBack units).holds (low * step), (readBack units).holds ((low + 1) * step) with
      | true, true =>
        some (if parts units - low * step < (low + 1) * step - parts units ∨
            parts units - low * step = (low + 1) * step - parts units ∧ low % 2 = 0 then low
          else low + 1)
      | true, false => some low
      | false, true => some (low + 1)
      | false, false => none := by
  unfold onGrid? gridStep parts ReadBack.holds scale
  rfl

/-- A decimal on a grid is one of the two beside the number of units. -/
def Beside (units step n : Nat) : Prop := n = parts units / step ∨ n = parts units / step + 1

theorem onGrid?_eq_some (h : onGrid? units exponent count = some n) :
    Beside units (gridStep exponent count) n ∧
      (readBack units).holds (n * gridStep exponent count) = true := by
  rw [onGrid?_eq] at h
  unfold Beside
  generalize gridStep exponent count = step at *
  dsimp only at h
  split at h
  next hlow hhigh =>
    split at h
    · cases h
      exact ⟨.inl rfl, hlow⟩
    · cases h
      exact ⟨.inr rfl, hhigh⟩
  next hlow _ =>
    cases h
    exact ⟨.inl rfl, hlow⟩
  next _ hhigh =>
    cases h
    exact ⟨.inr rfl, hhigh⟩
  next => cases h

theorem onGrid?_ne_none (hn : Beside units (gridStep exponent count) n)
    (h : (readBack units).holds (n * gridStep exponent count) = true) :
    onGrid? units exponent count ≠ none := by
  rw [onGrid?_eq]
  unfold Beside at hn
  generalize gridStep exponent count = step at *
  dsimp only
  split
  next => nofun
  next => nofun
  next => nofun
  next hlow hhigh =>
    rcases hn with rfl | rfl
    · rw [hlow] at h; cases h
    · rw [hhigh] at h; cases h

/-! ## The first digit -/

/-- The place of the first digit of a number of units, counted from the
last of four hundred places after the point. -/
def leadingPlace (units : Nat) : Nat :=
  digitCount (units * scale / unitsOfOne)

theorem leadingExponent_eq (units : Nat) :
    leadingExponent units = (leadingPlace units : Int) - 401 := by
  unfold leadingExponent leadingPlace scale unitsOfOne
  rfl

theorem gridStep_leading (units : Nat) (h : count ≤ leadingPlace units) :
    gridStep (leadingExponent units) count =
      10 ^ (leadingPlace units - count) * (4 * unitsOfOne) := by
  have hplaces : (leadingExponent units + 401 - count).toNat = leadingPlace units - count := by
    rw [leadingExponent_eq]
    omega
  have hfour (k : Nat) : Nat.pow 2 (k + 2) = 4 * Nat.pow 2 k := by
    rw [Nat.pow_eq, Nat.pow_eq, pow_add, mul_comm]
    rfl
  rw [gridStep, hplaces, hfour, Nat.pow_eq]
  unfold unitsOfOne
  rfl

theorem le_scaled (hu : 0 < units) :
    10 ^ 17 ≤ units * scale / unitsOfOne := by
  have hroom : 10 ^ 17 * unitsOfOne ≤ scale := by decide +kernel
  exact (Nat.le_div_iff_mul_le unitsOfOne_pos).mpr (hroom.trans (Nat.le_mul_of_pos_left _ hu))

theorem scaled_ne_zero (hu : 0 < units) :
    units * scale / unitsOfOne ≠ 0 := by
  intro h
  have hle := le_scaled hu
  rw [h] at hle
  exact absurd hle (by decide)

/-- There is room for seventeen digits. -/
theorem seventeen_le_leadingPlace (hu : 0 < units) : 17 ≤ leadingPlace units := by
  by_contra hlt
  have hbelow := (digitCount_le_iff (scaled_ne_zero hu) 17).mp
    (by unfold leadingPlace at hlt; omega)
  exact absurd (le_scaled hu) (Nat.not_le.mpr hbelow)

/-- On the grid for so many digits a number of units lies between two
powers of ten. -/
theorem parts_bounds (hu : 0 < units) (count : Nat) (hpos : 0 < count) (h : count ≤ 17) :
    10 ^ (count - 1) * gridStep (leadingExponent units) count ≤ parts units ∧
      parts units < 10 ^ count * gridStep (leadingExponent units) count := by
  have hroom := h.trans (seventeen_le_leadingPlace hu)
  have hlead : 10 ^ (leadingPlace units - 1) ≤ units * scale / unitsOfOne :=
    pow_le_of_lt_digitCount (scaled_ne_zero hu) (Nat.sub_lt (by omega) Nat.one_pos)
  have hbelow : units * scale / unitsOfOne < 10 ^ leadingPlace units :=
    lt_pow_digitCount _
  rw [gridStep_leading units hroom]
  have hunit := unitsOfOne_pos
  rw [Nat.le_div_iff_mul_le hunit] at hlead
  rw [Nat.div_lt_iff_lt_mul hunit] at hbelow
  unfold parts
  generalize unitsOfOne = unit at *
  generalize scale = scale at *
  constructor
  · calc 10 ^ (count - 1) * (10 ^ (leadingPlace units - count) * (4 * unit))
        = 4 * (10 ^ (leadingPlace units - 1) * unit) := by
          rw [show leadingPlace units - 1 = (count - 1) + (leadingPlace units - count) by omega,
            pow_add]
          ring
      _ ≤ 4 * (units * scale) := Nat.mul_le_mul_left 4 hlead
      _ = 4 * units * scale := (mul_assoc ..).symm
  · calc 4 * units * scale = 4 * (units * scale) := mul_assoc ..
      _ < 4 * (10 ^ leadingPlace units * unit) := by omega
      _ = 10 ^ count * (10 ^ (leadingPlace units - count) * (4 * unit)) := by
          rw [show leadingPlace units = count + (leadingPlace units - count) by omega, pow_add]
          simp only [Nat.add_sub_cancel_left]
          ring

theorem gridStep_pos (hu : 0 < units) (count : Nat) (h : count ≤ 17) :
    0 < gridStep (leadingExponent units) count := by
  rw [gridStep_leading units (h.trans (seventeen_le_leadingPlace hu))]
  exact Nat.mul_pos (Nat.pow_pos (by decide)) (Nat.mul_pos (by decide) unitsOfOne_pos)

/-- One digit less makes the steps ten times as long. -/
theorem gridStep_succ (hu : 0 < units) (h : count + 1 ≤ 17) :
    gridStep (leadingExponent units) count = 10 * gridStep (leadingExponent units) (count + 1) := by
  have hroom := h.trans (seventeen_le_leadingPlace hu)
  rw [gridStep_leading units hroom, gridStep_leading units (by omega),
    show leadingPlace units - count = leadingPlace units - (count + 1) + 1 by omega, pow_succ]
  ring

/-! ## Seventeen digits suffice -/

theorem holds_of_lt {bounds : ReadBack} {here : Nat} (hlow : bounds.low * scale < here)
    (hhigh : here < bounds.high * scale) : bounds.holds here = true := by
  unfold ReadBack.holds
  dsimp only
  split
  · rw [Bool.and_eq_true, decide_eq_true_eq, decide_eq_true_eq]
    exact ⟨hlow.le, hhigh.le⟩
  · rw [Bool.and_eq_true, decide_eq_true_eq, decide_eq_true_eq]
    exact ⟨hlow, hhigh⟩

/-- The step between neighbours of a number of units. -/
def neighbourStep (units : Nat) : Nat := Nat.pow 2 (Binary64.spareBits units)

theorem neighbourStep_bounds (hu : 0 < units) :
    neighbourStep units ≤ units ∧ units < 2 ^ 53 * neighbourStep units := by
  have hne : units ≠ 0 := by omega
  unfold neighbourStep Binary64.spareBits
  rw [Nat.pow_eq]
  constructor
  · exact (Nat.pow_le_pow_right (by decide) (Nat.sub_le _ _)).trans (Nat.log2_self_le hne)
  · calc units < 2 ^ (units.log2 + 1) := Nat.lt_log2_self
      _ ≤ 2 ^ (53 + (units.log2 - 52)) := Nat.pow_le_pow_right (by decide) (by omega)
      _ = 2 ^ 53 * 2 ^ (units.log2 - 52) := pow_add ..

/-- The reals that are read back as a number lie around it, and not all
within one step of a grid of seventeen digits. -/
theorem readBack_wide (hu : 0 < units) :
    (readBack units).low < 4 * units ∧ 4 * units < (readBack units).high ∧
      4 * units < ((readBack units).high - (readBack units).low) * 10 ^ 16 := by
  obtain ⟨hle, hlt⟩ := neighbourStep_bounds hu
  have hpos : 0 < neighbourStep units := by
    unfold neighbourStep
    rw [Nat.pow_eq]
    exact Nat.pow_pos (by decide)
  have hquotient : units < units / neighbourStep units * neighbourStep units +
      neighbourStep units := Nat.lt_div_mul_add hpos
  have hreadBack : readBack units = {
      low := 4 * units -
        if units / neighbourStep units = Nat.pow 2 52 ∧ 0 < Binary64.spareBits units then
          neighbourStep units
        else 2 * neighbourStep units
      high := 4 * units + 2 * neighbourStep units
      closed := units / neighbourStep units % 2 == 0 } := rfl
  rw [hreadBack]
  generalize neighbourStep units = step at *
  dsimp only
  split
  next hpower =>
    rw [hpower.1, Nat.pow_eq] at hquotient
    omega
  next => omega

/-- Seventeen digits suffice. -/
theorem onGrid?_seventeen (hu : 0 < units) : onGrid? units (leadingExponent units) 17 ≠ none := by
  obtain ⟨hlow, hhigh, hwide⟩ := readBack_wide hu
  have hlow : (readBack units).low * scale < parts units :=
    Nat.mul_lt_mul_of_pos_right hlow scale_pos
  have hhigh : parts units < (readBack units).high * scale :=
    Nat.mul_lt_mul_of_pos_right hhigh scale_pos
  have hparts := (parts_bounds hu 17 (by decide) le_rfl).1
  have hbelow := Nat.div_mul_le_self (parts units) (gridStep (leadingExponent units) 17)
  have habove := Nat.lt_div_mul_add (a := parts units) (gridStep_pos hu 17 le_rfl)
  intro hnone
  have hoff (n : Nat) (hn : Beside units (gridStep (leadingExponent units) 17) n) :
      ¬ (readBack units).holds (n * gridStep (leadingExponent units) 17) = true :=
    fun h => onGrid?_ne_none hn h hnone
  -- neither neighbour is read back, so the reals that are lie between them
  have hfloor : parts units / gridStep (leadingExponent units) 17 *
      gridStep (leadingExponent units) 17 ≤ (readBack units).low * scale :=
    Nat.not_lt.mp fun h => hoff _ (.inl rfl) (holds_of_lt h (hbelow.trans_lt hhigh))
  have hceil : (readBack units).high * scale ≤ parts units / gridStep (leadingExponent units) 17 *
      gridStep (leadingExponent units) 17 + gridStep (leadingExponent units) 17 := by
    refine Nat.not_lt.mp fun h => hoff _ (.inr rfl) ?_
    rw [Nat.add_one_mul]
    exact holds_of_lt (hlow.trans habove) h
  have hclose : ((readBack units).high - (readBack units).low) * 10 ^ 16 * scale ≤
      4 * units * scale := by
    calc ((readBack units).high - (readBack units).low) * 10 ^ 16 * scale
        = 10 ^ 16 * ((readBack units).high * scale - (readBack units).low * scale) := by
          rw [← Nat.sub_mul]
          ring
      _ ≤ 10 ^ 16 * gridStep (leadingExponent units) 17 := Nat.mul_le_mul_left _ (by omega)
      _ ≤ 4 * units * scale := hparts
  exact absurd (Nat.le_of_mul_le_mul_right hclose scale_pos) (Nat.not_le.mpr hwide)

/-! ## Digits without a final zero -/

/-- A decimal with a final zero stands beside a number also on the coarser
grid. -/
theorem Beside.coarser {step : Nat} (h : Beside units step (10 * n)) :
    Beside units (10 * step) n := by
  have hdiv : parts units / (10 * step) = parts units / step / 10 := by
    rw [Nat.div_div_eq_div_mul, mul_comm]
  unfold Beside at h ⊢
  rw [hdiv]
  omega

/-- The first decimal that is read back, in the order in which they are
tried. -/
theorem search_eq {exponent : Int} {more : Nat}
    (h : onGrid? units exponent (count + more) ≠ none) :
    ∃ k n, count ≤ k ∧ k ≤ count + more ∧ onGrid? units exponent k = some n ∧
      (∀ j, count ≤ j → j < k → onGrid? units exponent j = none) ∧
      shortest.search units exponent more count = ⟨n, k, exponent⟩ := by
  induction more generalizing count with
  | zero =>
    obtain ⟨n, hn⟩ := Option.ne_none_iff_exists'.mp h
    refine ⟨count, n, le_rfl, le_rfl, hn, fun j hj hlt => absurd hlt (by omega), ?_⟩
    rw [shortest.search, show onGrid? units exponent count = some n from hn]
    rfl
  | succ more ih =>
    cases hc : onGrid? units exponent count with
    | some n =>
      refine ⟨count, n, le_rfl, by omega, hc, fun j hj hlt => absurd hlt (by omega), ?_⟩
      rw [shortest.search, hc]
    | none =>
      have hnext : onGrid? units exponent (count + 1 + more) ≠ none := by
        rwa [show count + 1 + more = count + (more + 1) by omega]
      obtain ⟨k, n, hle, hmost, hn, hbefore, hsearch⟩ := ih hnext
      refine ⟨k, n, by omega, by omega, hn, fun j hj hlt => ?_, ?_⟩
      · rcases Nat.eq_or_lt_of_le hj with rfl | hj
        · exact hc
        · exact hbefore j hj hlt
      · rw [shortest.search, hc]
        exact hsearch

/-- Digits as many as there are said to be, at most seventeen, and the
last of them not zero. -/
structure Digits.Canonical (d : Digits) : Prop where
  some_digit : 0 < d.count
  few : d.count ≤ 17
  leading : 10 ^ (d.count - 1) ≤ d.digits
  bounded : d.digits < 10 ^ d.count
  last : ¬ 10 ∣ d.digits

/-- A decimal that stands beside a number has the number of digits of its
grid, or is the next power of ten. -/
theorem Beside.digits (hu : 0 < units) (hpos : 0 < count) (hmost : count ≤ 17)
    (h : Beside units (gridStep (leadingExponent units) count) n) :
    10 ^ (count - 1) ≤ n ∧ n ≤ 10 ^ count := by
  obtain ⟨hlead, hbelow⟩ := parts_bounds hu count hpos hmost
  have hstep := gridStep_pos hu count hmost
  have hlow := (Nat.le_div_iff_mul_le hstep).mpr hlead
  have hhigh := (Nat.div_lt_iff_lt_mul hstep).mpr hbelow
  unfold Beside at h
  omega

/-- The first decimal that is read back does not end in a zero, since
without it the decimal is tried earlier. -/
theorem not_ten_dvd (hu : 0 < units) (hpos : 0 < count) (hmost : count ≤ 17)
    (hn : onGrid? units (leadingExponent units) count = some n) (hlt : n < 10 ^ count)
    (hbefore : ∀ j, 1 ≤ j → j < count → onGrid? units (leadingExponent units) j = none) :
    ¬ 10 ∣ n := by
  obtain ⟨hbeside, hholds⟩ := onGrid?_eq_some hn
  obtain ⟨hleading, -⟩ := hbeside.digits hu hpos hmost
  rintro ⟨m, rfl⟩
  cases count with
  | zero => cases hpos
  | succ j =>
    rw [Nat.add_sub_cancel] at hleading
    rcases Nat.eq_zero_or_pos j with rfl | hj
    · rw [pow_zero] at hleading
      omega
    · refine onGrid?_ne_none (n := m) ?_ ?_ (hbefore j hj (Nat.lt_succ_self j))
      · rw [gridStep_succ hu hmost]
        exact hbeside.coarser
      · rw [gridStep_succ hu hmost, ← mul_assoc, mul_comm m]
        exact hholds

/-- The shortest decimal is the first that is read back; ten to the power
of its digits has one digit more. -/
theorem shortest_eq (hu : 0 < units) : ∃ k n, 0 < k ∧ k ≤ 17 ∧
    onGrid? units (leadingExponent units) k = some n ∧
    (∀ j, 1 ≤ j → j < k → onGrid? units (leadingExponent units) j = none) ∧
    shortest units = if n = Nat.pow 10 k then ⟨1, 1, leadingExponent units + 1⟩
      else ⟨n, k, leadingExponent units⟩ := by
  have hfound : onGrid? units (leadingExponent units) (1 + 16) ≠ none := onGrid?_seventeen hu
  obtain ⟨k, n, hpos, hmost, hn, hbefore, hsearch⟩ := search_eq hfound
  refine ⟨k, n, hpos, hmost, hn, hbefore, ?_⟩
  unfold shortest
  dsimp only
  rw [hsearch]

theorem canonical_shortest (hu : 0 < units) : (shortest units).Canonical := by
  obtain ⟨k, n, hpos, hmost, hn, hbefore, hshortest⟩ := shortest_eq hu
  obtain ⟨hleading, hle⟩ := (onGrid?_eq_some hn).1.digits hu hpos hmost
  rw [hshortest]
  split
  next => exact ⟨Nat.one_pos, by simp, by simp, by simp, by simp⟩
  next hne =>
    have hlt : n < 10 ^ k := Nat.lt_of_le_of_ne hle hne
    exact ⟨hpos, hmost, hleading, hlt, not_ten_dvd hu hpos hmost hn hlt hbefore⟩

/-! ## The exponent -/

/-- The first digit of a number of the format stands near the point. -/
theorem shortest_exponent (hu : 0 < units) (h : units < Binary64.unitLimit) :
    -384 ≤ (shortest units).exponent ∧ (shortest units).exponent ≤ 309 := by
  have hbound : Binary64.unitLimit * scale ≤ 10 ^ 709 * unitsOfOne := by decide +kernel
  have hplace : leadingPlace units ≤ 709 :=
    (digitCount_le_iff (scaled_ne_zero hu) 709).mpr
      ((Nat.div_lt_iff_lt_mul unitsOfOne_pos).mpr
        ((Nat.mul_lt_mul_of_pos_right h scale_pos).trans_le hbound))
  have hroom := seventeen_le_leadingPlace hu
  have hleading := leadingExponent_eq units
  obtain ⟨k, n, -, -, -, -, hshortest⟩ := shortest_eq hu
  rw [hshortest]
  split
  next => dsimp only; omega
  next => dsimp only; omega

end Polyschema.Number
