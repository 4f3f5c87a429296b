/-
Polyschema.Proofs.FloatText — the text of a binary number, read as a
decimal.

* `Digits.written` — the coefficient and the power of ten that digits are
  read as. Where the last digit stands before the point, a zero is written
  after it.
* `readsAs_text` — the text of digits is read so.
* `Binary64.shortestRat` — the number that the text of a binary number
  writes.
* `readDecimal?_binary` — that text read as a decimal: the number, with no
  zero at the end but for one that fills the first place after the point.
-/
import Polyschema.Proofs.DecimalText
import Polyschema.Proofs.ShortestDigits

namespace Polyschema.Number

/-! ## Digits as text -/

namespace Digits

/-- The place of the last digit. -/
def lastPlace (d : Digits) : Int := d.exponent + 1 - d.count

/-- The coefficient and the power of ten that the text of digits is read
as. -/
def written (d : Digits) : Nat × Int :=
  if 0 ≤ d.lastPlace ∧ d.exponent < 16 then (d.digits * 10 ^ (d.lastPlace.toNat + 1), -1)
  else (d.digits, d.lastPlace)

variable {d : Digits}

theorem Canonical.digits_ne_zero (h : d.Canonical) : d.digits ≠ 0 := by
  intro hzero
  exact h.last (by rw [hzero]; exact Nat.dvd_zero 10)

/-- There are as many digits as the count says. -/
theorem Canonical.length_toDigits (h : d.Canonical) :
    (Nat.toDigits 10 d.digits).length = d.count := by
  have hne := h.digits_ne_zero
  rw [← digitCount_eq]
  have hmost := (digitCount_le_iff hne d.count).mpr h.bounded
  have hleast : ¬ digitCount d.digits ≤ d.count - 1 := fun hle =>
    absurd ((digitCount_le_iff hne _).mp hle) (Nat.not_lt.mpr h.leading)
  omega

theorem toList_exponentText (n : Int) : (exponentText n).toList = (if n < 0 then '-' else '+') ::
    (List.replicate (2 - (Nat.toDigits 10 n.natAbs).length) '0' ++ Nat.toDigits 10 n.natAbs) := by
  have hlength : (toString n.natAbs).length = (Nat.toDigits 10 n.natAbs).length := by
    rw [← String.length_toList, toList_natText]
  have hpos : 0 < (Nat.toDigits 10 n.natAbs).length :=
    List.length_pos_iff.mpr Nat.toDigits_ne_nil
  have hzeros : (if (Nat.toDigits 10 n.natAbs).length < 2 then "0" else "").toList =
      List.replicate (2 - (Nat.toDigits 10 n.natAbs).length) '0' := by
    split
    next h => rw [show 2 - (Nat.toDigits 10 n.natAbs).length = 1 by omega]; rfl
    next h => rw [show 2 - (Nat.toDigits 10 n.natAbs).length = 0 by omega]; rfl
  unfold exponentText
  simp only [String.toList_append, toList_natText, hlength, hzeros]
  split <;> rfl

/-- An exponent is read back from its text. -/
theorem readExponent_exponentText (n : Int) :
    readExponent ('e' :: (exponentText n).toList) = some n := by
  rw [toList_exponentText]
  refine readExponent_digits (.inl rfl)
    (List.forall_mem_append.mpr ⟨isDigit_zeros _, isDigit_toDigits n.natAbs⟩)
    (List.append_ne_nil_of_right_ne_nil _ Nat.toDigits_ne_nil) ?_
  rw [digitsValue_zeros, digitsValue_toDigits]

theorem kept_exponentText (n : Int) : ∀ c ∈ 'e' :: (exponentText n).toList, Kept c := by
  intro c hc
  rw [toList_exponentText, List.mem_cons, List.mem_cons] at hc
  rcases hc with rfl | rfl | hc
  · exact kept_of_mark (by decide)
  · split <;> exact kept_of_mark (by decide)
  · exact kept_of_isDigit
      (List.forall_mem_append.mpr ⟨isDigit_zeros _, isDigit_toDigits n.natAbs⟩ c hc)

/-- Zeros at the end of digits multiply their value. -/
theorem digitsValue_append_zeros (ds : List Char) (k : Nat) :
    digitsValue (ds ++ List.replicate k '0') = digitsValue ds * 10 ^ k := by
  unfold digitsValue
  rw [List.foldl_append]
  induction k with
  | zero => simp
  | succ k ih =>
    rw [List.replicate_succ', List.foldl_append, ih]
    simp only [List.foldl_cons, List.foldl_nil, pow_succ]
    show 10 * _ + 0 = _
    ring

/-- Digits with their point where it belongs are read as they are. -/
theorem readsAs_digits (h : d.Canonical) (left : Int) {tail : List Char} {power : Int}
    (hleft : left ≤ d.count) (ht : OpensExponent tail) (hk : ∀ c ∈ tail, Kept c)
    (hp : readExponent tail = some power) (hplace : power + left = d.exponent + 1) :
    ReadsAs (Decimal.pointed (Nat.toDigits 10 d.digits) left ++ tail) d.digits d.lastPlace := by
  have hread := readsAs_pointed (isDigit_toDigits d.digits) Nat.toDigits_ne_nil left
    (by rw [h.length_toDigits]; exact hleft) ht hk hp
  rwa [digitsValue_toDigits, h.length_toDigits, hplace] at hread

/-- Digits that end before the point, with zeros up to it and one after
it. -/
theorem readsAs_filled (h : d.Canonical) (hlast : 0 ≤ d.lastPlace) :
    ReadsAs (Nat.toDigits 10 d.digits ++ List.replicate d.lastPlace.toNat '0' ++ ['.', '0'])
      (d.digits * 10 ^ (d.lastPlace.toNat + 1)) (-1) := by
  have hpos := h.some_digit
  have hfront : (Nat.toDigits 10 d.digits ++ List.replicate d.lastPlace.toNat '0').length =
      (d.exponent + 1).toNat := by
    rw [List.length_append, List.length_replicate, h.length_toDigits]
    unfold lastPlace at hlast ⊢
    omega
  generalize hds : Nat.toDigits 10 d.digits ++ List.replicate d.lastPlace.toNat '0' = front at *
  have hdigits : ∀ c ∈ front ++ ['0'], c.isDigit = true := by
    rw [← hds, List.append_assoc, ← List.replicate_succ']
    exact List.forall_mem_append.mpr ⟨isDigit_toDigits _, isDigit_zeros _⟩
  have hvalue : digitsValue (front ++ ['0']) = d.digits * 10 ^ (d.lastPlace.toNat + 1) := by
    rw [← hds, List.append_assoc, ← List.replicate_succ', digitsValue_append_zeros,
      digitsValue_toDigits]
  have hlength : (front ++ ['0']).length = (d.exponent + 1).toNat + 1 := by
    rw [List.length_append, hfront]
    rfl
  have hpoint : Decimal.pointed (front ++ ['0']) (d.exponent + 1) = front ++ ['.', '0'] := by
    unfold Decimal.pointed
    rw [if_neg (by unfold lastPlace at hlast; omega), if_neg (by omega), List.take_left' hfront,
      List.drop_left' hfront]
  have hread := readsAs_pointed hdigits (by simp) (d.exponent + 1) (by omega) (.inl rfl)
    (fun _ hc => nomatch hc) rfl
  rw [hpoint, List.append_nil, hvalue, hlength] at hread
  unfold lastPlace at hlast
  rwa [show 0 + (d.exponent + 1) - ((d.exponent + 1).toNat + 1 : Nat) = -1 by omega] at hread

/-- The text of digits near the point, which is filled up to the first
place after it. -/
theorem toList_text_near (h : d.Canonical) (hnear : -4 ≤ d.exponent ∧ d.exponent < 16) :
    d.text.toList = if 0 ≤ d.lastPlace then
        Nat.toDigits 10 d.digits ++ List.replicate d.lastPlace.toNat '0' ++ ['.', '0']
      else Decimal.pointed (Nat.toDigits 10 d.digits) (d.exponent + 1) := by
  have hlength := h.length_toDigits
  have hpos := h.some_digit
  unfold text lastPlace Decimal.pointed
  simp only [toList_natText]
  rw [if_pos hnear]
  generalize Nat.toDigits 10 d.digits = ds at *
  split
  next hbelow =>
    rw [if_neg (by omega), if_pos (by omega), String.toList_ofList,
      show -(d.exponent + 1) = -d.exponent - 1 by omega]
    rfl
  next habove =>
    rw [String.toList_ofList]
    by_cases hfilled : 0 ≤ d.exponent + 1 - d.count
    · have hback : ds.drop (d.exponent.toNat + 1) = [] := List.drop_eq_nil_of_le (by omega)
      have hzeros : d.exponent.toNat + 1 - ds.length = (d.exponent + 1 - d.count).toNat := by
        omega
      rw [if_pos hfilled, hback, hzeros, List.take_of_length_le]
      · rfl
      · rw [List.length_append, zeros, List.length_replicate]
        omega
    · have hpast : ¬ d.exponent + 1 ≤ 0 := by omega
      have hinside : ¬ ds.length ≤ (d.exponent + 1).toNat := by omega
      have hwhole : d.exponent.toNat + 1 = (d.exponent + 1).toNat := by omega
      have hback : (ds.drop (d.exponent + 1).toNat).isEmpty = false := by
        rw [List.isEmpty_eq_false_iff, ne_eq, List.drop_eq_nil_iff]
        exact hinside
      rw [if_neg hfilled, if_neg hpast, if_neg hinside, hwhole, hback,
        List.take_append_of_le_length (by omega)]
      rfl

/-- The text of digits far from the point, with an exponent. -/
theorem toList_text_far (h : d.Canonical) (hfar : ¬ (-4 ≤ d.exponent ∧ d.exponent < 16)) :
    d.text.toList = Decimal.pointed (Nat.toDigits 10 d.digits) 1 ++
      'e' :: (exponentText d.exponent).toList := by
  have hlength := h.length_toDigits
  have hpos := h.some_digit
  have hone : ¬ (1 : Int) ≤ 0 := by decide
  unfold text Decimal.pointed
  simp only [toList_natText]
  rw [if_neg hfar, if_neg hone]
  generalize Nat.toDigits 10 d.digits = ds at *
  rw [String.toList_append, String.toList_append, String.toList_ofList, Int.toNat_one]
  by_cases hsingle : ds.length ≤ 1
  · have hback : ds.drop 1 = [] := List.drop_eq_nil_of_le hsingle
    rw [if_pos hsingle, hback, List.take_of_length_le hsingle, show 1 - ds.length = 0 by omega]
    simp
  · have hback : (ds.drop 1).isEmpty = false := by
      rw [List.isEmpty_eq_false_iff, ne_eq, List.drop_eq_nil_iff]
      exact hsingle
    rw [if_neg hsingle, hback]
    simp

theorem readsAs_text (h : d.Canonical) : ReadsAs d.text.toList d.written.1 d.written.2 := by
  have hpos := h.some_digit
  have hnone : ∀ c ∈ ([] : List Char), Kept c := nofun
  unfold written
  by_cases hnear : -4 ≤ d.exponent ∧ d.exponent < 16
  · rw [toList_text_near h hnear]
    split
    next hfilled =>
      rw [if_pos ⟨hfilled, hnear.2⟩]
      exact readsAs_filled h hfilled
    next hopen =>
      have hread := readsAs_digits h (d.exponent + 1) (by unfold lastPlace at hopen; omega)
        (.inl rfl) hnone rfl (by omega)
      rw [List.append_nil] at hread
      rwa [if_neg fun hfilled => hopen hfilled.1]
  · -- a number that is smaller still ends after the point
    have hopen : ¬ (0 ≤ d.lastPlace ∧ d.exponent < 16) := by
      unfold lastPlace
      omega
    rw [toList_text_far h hnear, if_neg hopen]
    exact readsAs_digits h 1 (by omega) (.inr ⟨_, _, .inl rfl, rfl⟩) (kept_exponentText _)
      (readExponent_exponentText _) rfl

/-- The number that digits stand for. -/
def toRat (d : Digits) : ℚ := d.digits * 10 ^ d.lastPlace

/-- It lies between the power of ten of the first digit and the next. -/
theorem Canonical.toRat_bounds (h : d.Canonical) :
    (10 : ℚ) ^ d.exponent ≤ d.toRat ∧ d.toRat < 10 ^ (d.exponent + 1) := by
  have hten : (10 : ℚ) ≠ 0 := by norm_num
  have hpow : (0 : ℚ) < 10 ^ d.lastPlace := zpow_pos (by norm_num) _
  have hleading : (10 : ℚ) ^ (d.count - 1) ≤ d.digits := by exact_mod_cast h.leading
  have hbounded : (d.digits : ℚ) < 10 ^ d.count := by exact_mod_cast h.bounded
  have hpos := h.some_digit
  constructor
  · calc (10 : ℚ) ^ d.exponent = 10 ^ (d.count - 1) * 10 ^ d.lastPlace := by
          rw [← zpow_natCast, ← zpow_add₀ hten]
          congr 1
          unfold lastPlace
          omega
      _ ≤ d.toRat := mul_le_mul_of_nonneg_right hleading hpow.le
  · calc d.toRat < 10 ^ d.count * 10 ^ d.lastPlace := mul_lt_mul_of_pos_right hbounded hpow
      _ = 10 ^ (d.exponent + 1) := by
          rw [← zpow_natCast, ← zpow_add₀ hten]
          congr 1
          unfold lastPlace
          omega

/-- Digits are read as the number that they stand for. -/
theorem toRat_written (d : Digits) (negative : Bool) :
    (Decimal.finite negative d.written.1 d.written.2).toRat =
      (if negative then -1 else 1) * d.toRat := by
  unfold written
  split
  next hfilled =>
    have hsplit : (10 : ℚ) ^ d.lastPlace = 10 ^ (d.lastPlace.toNat + 1) * 10 ^ (-1 : ℤ) := by
      rw [← zpow_natCast, ← zpow_add₀ (by norm_num)]
      congr 1
      omega
    rw [Decimal.toRat, toRat, hsplit]
    push_cast
    ring
  next =>
    rw [Decimal.toRat, toRat]
    ring

end Digits

/-! ## Binary numbers as text -/

/-- The number that a finite binary number is written as. -/
def Binary64.shortestRat : Binary64 → ℚ
  | finite negative units =>
    if units = 0 then 0 else (if negative then -1 else 1) * (shortest units).toRat
  | _ => 0

/-- The exponent that is read is within bounds. -/
theorem bounded_written {d : Digits} (h : d.Canonical) (hleast : -384 ≤ d.exponent)
    (hmost : d.exponent ≤ 309) (negative : Bool) :
    (Decimal.finite negative d.written.1 d.written.2).Bounded := by
  have hne := h.digits_ne_zero
  have hfew := h.few
  have hpos := h.some_digit
  show d.written.2 + digitCount d.written.1 - 1 ≤ greatestExponent ∧ leastExponent ≤ d.written.2
  unfold Digits.written Digits.lastPlace greatestExponent leastExponent
  split
  next hfilled =>
    have hcount : digitCount (d.digits * 10 ^ ((d.exponent + 1 - d.count).toNat + 1)) ≤
        d.count + ((d.exponent + 1 - d.count).toNat + 1) := by
      have hpow := Nat.pow_pos (n := (d.exponent + 1 - d.count).toNat + 1) (show 0 < 10 by decide)
      refine (digitCount_le_iff (Nat.mul_ne_zero hne hpow.ne') _).mpr ?_
      rw [pow_add 10 d.count]
      exact Nat.mul_lt_mul_of_pos_right h.bounded hpow
    dsimp only
    omega
  next =>
    have hcount := (digitCount_le_iff hne d.count).mpr h.bounded
    dsimp only
    omega

theorem toList_binaryText (negative : Bool) {units : Nat} (hu : 0 < units) :
    (Binary64.finite negative units).text.toList =
      (if negative then ['-'] else []) ++ (shortest units).text.toList := by
  have hne : units ≠ 0 := by omega
  rw [Binary64.text, if_neg hne, String.toList_append]
  cases negative <;> rfl

/-- Zero is written with a place after the point. -/
theorem readDecimal?_binaryZero (negative : Bool) :
    readDecimal? (Binary64.finite negative 0).text = some (.finite negative 0 (-1)) := by
  have hd : ∀ c ∈ ['0', '0'], c.isDigit = true := isDigit_zeros 2
  have hread := readsAs_pointed hd (List.cons_ne_nil _ _) 1 (by decide) (.inl rfl)
    (fun _ hc => nomatch hc) rfl
  refine hread.readDecimal?_eq ?_ ?_
  · cases negative <;> rfl
  · cases negative <;> decide

/-- The text of a finite binary number is read as the number that it
writes. Where that is a whole number below 10¹⁶, it is read with one place
after the point, and elsewhere with no zero at its end. -/
theorem readDecimal?_binary (negative : Bool) {units : Nat} (h : units < Binary64.unitLimit) :
    let x := Binary64.finite negative units
    ∃ coefficient exponent,
      readDecimal? x.text = some (.finite negative coefficient exponent) ∧
      (Decimal.finite negative coefficient exponent).toRat = x.shortestRat ∧
      (exponent = -1 ∧ |x.shortestRat| < 10 ^ 16 ∨
        ¬ 10 ∣ coefficient ∧ (exponent < 0 ∨ 10 ^ 16 ≤ |x.shortestRat|)) := by
  intro x
  rcases Nat.eq_zero_or_pos units with rfl | hu
  · refine ⟨0, -1, ?_, ?_, .inl ⟨rfl, ?_⟩⟩
    · exact readDecimal?_binaryZero negative
    · simp [x, Binary64.shortestRat, Decimal.toRat]
    · simp [x, Binary64.shortestRat]
  · have hcanonical := canonical_shortest hu
    obtain ⟨hleast, hmost⟩ := shortest_exponent hu h
    have hx : x.shortestRat = (if negative then -1 else 1) * (shortest units).toRat :=
      if_neg (by omega)
    obtain ⟨hlow, hhigh⟩ := hcanonical.toRat_bounds
    have habs : |x.shortestRat| = (shortest units).toRat := by
      have hpos : 0 < (shortest units).toRat := (zpow_pos (by norm_num) _).trans_le hlow
      rw [hx]
      cases negative <;> simp [abs_of_pos hpos]
    rw [habs, hx]
    have hsixteen : (10 : ℚ) ^ 16 = 10 ^ (16 : ℤ) := by norm_num
    refine ⟨(shortest units).written.1, (shortest units).written.2,
      (Digits.readsAs_text hcanonical).readDecimal?_eq (toList_binaryText negative hu)
        (bounded_written hcanonical hleast hmost negative),
      Digits.toRat_written _ negative, ?_⟩
    unfold Digits.written
    split
    next hfilled =>
      refine .inl ⟨rfl, hhigh.trans_le ?_⟩
      rw [hsixteen]
      exact zpow_le_zpow_right₀ (by norm_num) (by omega)
    next hopen =>
      refine .inr ⟨hcanonical.last, ?_⟩
      by_cases hlast : (shortest units).lastPlace < 0
      · exact .inl hlast
      · refine .inr (le_trans ?_ hlow)
        rw [hsixteen]
        exact zpow_le_zpow_right₀ (by norm_num) (by omega)

end Polyschema.Number
