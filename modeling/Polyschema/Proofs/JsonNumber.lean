/-
Polyschema.Proofs.JsonNumber — the text of a binary number, read as a
number of JSON.

* `number?_part`, `number?_power` — digits with a fraction or an exponent
  are read as a binary number.
* `number?_text` — so is the text of the shortest digits.
* `reads_float` — a finite number of the format is read back from its text,
  also the zero with a sign.
-/
import Polyschema.Proofs.JsonText
import Polyschema.Proofs.Nearest

namespace Polyschema

open Polyschema.Number Polyschema.JsonReader

/-! ## Fractions and exponents -/

section

variable {whole part tail : List Char} {power : Option Int} (negative : Bool)

/-- Digits before the point: a single zero, or digits that do not begin with
one. -/
structure WholePart (whole : List Char) : Prop where
  digits : ∀ c ∈ whole, c.isDigit = true
  some_digit : whole ≠ []
  opens : whole.head? = some '0' → whole = ['0']

theorem isDigit_zero : ∀ c ∈ ['0'], c.isDigit = true := isDigit_zeros 1

theorem wholePart_zero : WholePart ['0'] := ⟨isDigit_zero, by decide, fun _ => rfl⟩

/-- The digits before the point are told from what follows. -/
theorem WholePart.taken (h : WholePart whole) (ht : EndsDigits tail) :
    (if ((whole ++ tail).takeWhile Char.isDigit).head? = some '0' then
      (['0'], (whole ++ tail).drop 1)
    else ((whole ++ tail).takeWhile Char.isDigit, (whole ++ tail).dropWhile Char.isDigit)) =
      (whole, tail) := by
  rw [takeWhile_digits h.digits ht, dropWhile_digits h.digits ht]
  split
  next hzero =>
    rw [h.opens hzero]
    rfl
  next => rfl

/-- Digits with a fraction. -/
theorem number?_part (hw : WholePart whole) (hd : ∀ c ∈ part, c.isDigit = true)
    (hne : part ≠ []) (ht : EndsDigits tail) {rest : List Char}
    (he : exponent tail = (power, rest)) :
    number? negative (whole ++ '.' :: (part ++ tail)) =
      some (.float (.ofDecimal negative (digitsValue (whole ++ part))
        (power.getD 0 - part.length)), rest) := by
  obtain ⟨c, digits, rfl⟩ := List.exists_cons_of_ne_nil hne
  obtain ⟨hc, hdigits⟩ := List.forall_mem_cons.mp hd
  have hfraction : fraction ('.' :: (c :: digits ++ tail)) = (c :: digits, tail) := by
    rw [List.cons_append, fraction, if_pos hc, takeWhile_digits hdigits ht,
      dropWhile_digits hdigits ht]
  have hempty : whole.isEmpty = false := by simpa using hw.some_digit
  have hpoint : EndsDigits ('.' :: (c :: digits ++ tail)) := endsDigits_cons (by decide)
  unfold number?
  simp only [hw.taken hpoint, hempty, hfraction, he, List.isEmpty_cons]
  rfl

/-- Digits with an exponent and no fraction. -/
theorem number?_power (hw : WholePart whole) (ht : EndsDigits tail)
    (hf : fraction tail = ([], tail)) {n : Int} {rest : List Char}
    (he : exponent tail = (some n, rest)) :
    number? negative (whole ++ tail) =
      some (.float (.ofDecimal negative (digitsValue whole) n), rest) := by
  have hempty : whole.isEmpty = false := by simpa using hw.some_digit
  unfold number?
  simp only [hw.taken ht, hempty, hf, he]
  simp

/-- The exponent of a number, with what follows it. -/
theorem exponent_text (n : Int) {rest : List Char} (h : EndsItem rest) :
    exponent ('e' :: (exponentText n).toList ++ rest) = (some n, rest) := by
  have hdigits : ∀ c ∈ List.replicate (2 - (Nat.toDigits 10 n.natAbs).length) '0' ++
      Nat.toDigits 10 n.natAbs, c.isDigit = true :=
    List.forall_mem_append.mpr ⟨isDigit_zeros _, isDigit_toDigits n.natAbs⟩
  have hempty : (List.replicate (2 - (Nat.toDigits 10 n.natAbs).length) '0' ++
      Nat.toDigits 10 n.natAbs).isEmpty = false := by simp
  have hvalue := digitsValue_zeros (2 - (Nat.toDigits 10 n.natAbs).length)
    (Nat.toDigits 10 n.natAbs)
  rw [digitsValue_toDigits] at hvalue
  rw [Digits.toList_exponentText]
  generalize List.replicate (2 - (Nat.toDigits 10 n.natAbs).length) '0' ++
      Nat.toDigits 10 n.natAbs = ds at *
  have hsign : takeSign ((if n < 0 then '-' else '+') :: (ds ++ rest)) =
      (decide (n < 0), ds ++ rest) := by
    by_cases hn : n < 0 <;> simp [hn, takeSign]
  have habs : (if n < 0 then -(n.natAbs : Int) else n.natAbs) = n := by
    split <;> omega
  simp only [List.cons_append, exponent, hsign, takeWhile_digits hdigits h.endsDigits,
    dropWhile_digits hdigits h.endsDigits, hempty, hvalue]
  simpa using habs

end

/-! ## The shortest digits -/

section

variable {ds tail : List Char} {power : Option Int} (negative : Bool)

/-- Digits with a point in them or before them. -/
theorem number?_pointed (hd : ∀ c ∈ ds, c.isDigit = true) (hne : ds ≠ [])
    (hhead : ds.head? ≠ some '0') (left : Int) (hleft : left < ds.length)
    (ht : EndsDigits tail) {rest : List Char} (he : exponent tail = (power, rest)) :
    number? negative (Decimal.pointed ds left ++ tail) =
      some (.float (.ofDecimal negative (digitsValue ds) (power.getD 0 + left - ds.length)),
        rest) := by
  unfold Decimal.pointed
  split
  next hzero =>
    have hzeros : ∀ c ∈ List.replicate (-left).toNat '0' ++ ds, c.isDigit = true :=
      List.forall_mem_append.mpr ⟨isDigit_zeros _, hd⟩
    have h := number?_part negative wholePart_zero hzeros (by simp [hne]) ht he
    have hvalue : digitsValue (['0'] ++ (List.replicate (-left).toNat '0' ++ ds)) =
        digitsValue ds := digitsValue_zeros ((-left).toNat + 1) ds
    rw [hvalue, List.length_append, List.length_replicate] at h
    simp only [List.cons_append, List.nil_append] at h ⊢
    rw [h]
    congr 4
    omega
  next hpos =>
    rw [if_neg (by omega)]
    have hfront : ∀ c ∈ ds.take left.toNat, c.isDigit = true :=
      fun c hc => hd c (List.mem_of_mem_take hc)
    have hback : ∀ c ∈ ds.drop left.toNat, c.isDigit = true :=
      fun c hc => hd c (List.mem_of_mem_drop hc)
    have htake : ds.take left.toNat ≠ [] := by
      rw [ne_eq, List.take_eq_nil_iff]
      rintro (h | h)
      · omega
      · exact hne h
    have hdrop : ds.drop left.toNat ≠ [] := by
      rw [ne_eq, List.drop_eq_nil_iff]
      omega
    have hwhole : WholePart (ds.take left.toNat) := by
      refine ⟨hfront, htake, fun hzero => absurd ?_ hhead⟩
      rwa [List.head?_take, if_neg (by omega)] at hzero
    have h := number?_part negative hwhole hback hdrop ht he
    rw [List.take_append_drop, List.length_drop] at h
    rw [List.append_assoc, List.cons_append, h]
    congr 4
    omega

end

namespace Number.Digits

variable {d : Digits}

theorem Canonical.head_ne_zero (h : d.Canonical) : (Nat.toDigits 10 d.digits).head? ≠ some '0' :=
  head_toDigits_ne_zero (Nat.pos_of_ne_zero h.digits_ne_zero)

/-- The text of the digits is read as the number that it writes. -/
theorem Canonical.number?_text (h : d.Canonical) (negative : Bool) {rest : List Char}
    (hr : EndsItem rest) : number? negative (d.text.toList ++ rest) =
      some (.float (.ofDecimal negative d.written.1 d.written.2), rest) := by
  have hd := isDigit_toDigits d.digits
  have hlength := h.length_toDigits
  have hpos := h.some_digit
  have hvalue := digitsValue_toDigits d.digits
  unfold written
  by_cases hnear : -4 ≤ d.exponent ∧ d.exponent < 16
  · rw [toList_text_near h hnear]
    split
    next hfilled =>
      have hwhole : WholePart (Nat.toDigits 10 d.digits ++
          List.replicate d.lastPlace.toNat '0') := by
        refine ⟨List.forall_mem_append.mpr ⟨hd, isDigit_zeros _⟩, by simp, fun hzero => ?_⟩
        rw [List.head?_append_of_ne_nil _ Nat.toDigits_ne_nil] at hzero
        exact absurd hzero h.head_ne_zero
      have hread :=
        number?_part negative hwhole isDigit_zero (by decide) hr.endsDigits hr.exponent_eq
      rw [List.append_assoc _ _ ['0'], ← List.replicate_succ', digitsValue_append_zeros,
        hvalue] at hread
      rw [if_pos ⟨hfilled, hnear.2⟩, List.append_assoc _ ['.', '0']]
      exact hread
    next hopen =>
      have hread := number?_pointed negative hd Nat.toDigits_ne_nil h.head_ne_zero
        (d.exponent + 1) (by unfold lastPlace at hopen; omega) hr.endsDigits hr.exponent_eq
      rw [if_neg fun hfilled => hopen hfilled.1, hread, hvalue, hlength]
      simp [lastPlace]
  · have hopen : ¬ (0 ≤ d.lastPlace ∧ d.exponent < 16) := by
      unfold lastPlace
      omega
    have htail : EndsDigits ('e' :: (exponentText d.exponent).toList ++ rest) :=
      endsDigits_cons (by decide)
    rw [toList_text_far h hnear, if_neg hopen, List.append_assoc]
    rcases Nat.lt_or_ge 1 d.count with hmany | hone
    · have hread := number?_pointed negative hd Nat.toDigits_ne_nil h.head_ne_zero
        1 (by omega) htail (exponent_text d.exponent hr)
      rw [hread, hvalue, hlength]
      rfl
    · have hsingle : Decimal.pointed (Nat.toDigits 10 d.digits) 1 = Nat.toDigits 10 d.digits := by
        unfold Decimal.pointed
        rw [if_neg (by decide), if_pos (by rw [hlength]; exact hone), hlength,
          show (1 : Int).toNat - d.count = 0 by omega, List.replicate_zero, List.append_nil]
      have hwhole : WholePart (Nat.toDigits 10 d.digits) :=
        ⟨hd, Nat.toDigits_ne_nil, fun hzero => absurd hzero h.head_ne_zero⟩
      have hread := number?_power negative hwhole htail rfl
        (exponent_text d.exponent hr)
      rw [hsingle, hread, hvalue, lastPlace]
      congr 4
      omega

end Number.Digits

/-! ## Binary numbers -/

/-- A finite number of the format is read back from its text. -/
theorem reads_float {x : Binary64} (hx : x.isFinite = true) (hf : x.InFormat) :
    Reads x.text.toList (.float x) := by
  cases x with
  | finite negative units =>
    rcases Nat.eq_zero_or_pos units with rfl | hu
    · have hfirst : ∃ c after, ['0', '.', '0'] = c :: after ∧ c.isDigit = true :=
        ⟨'0', _, rfl, by decide⟩
      have hread := reads_number negative hfirst fun {rest} hr =>
        number?_part negative wholePart_zero isDigit_zero (by decide) hr.endsDigits hr.exponent_eq
      cases negative <;> exact hread
    · have hcanonical := canonical_shortest hu
      rw [toList_binaryText negative hu, ← ofDecimal_written hu hf]
      exact reads_number negative (Digits.readsAs_text hcanonical).first
        fun {rest} hr => hcanonical.number?_text negative hr
  | _ => cases hx

end Polyschema
