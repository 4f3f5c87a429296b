/-
Polyschema.Proofs.DecimalText — the canonical text of a decimal, read
again.

* `Decimal.Bounded` — a decimal whose exponent is within the bounds of
  the format, as every decimal that is read has it.
* `readScientific_pointed` — digits with a point in or before them, and
  an exponent, are read as those digits with the exponent they have.
* `ReadsAs` — an unsigned number that is read so also with a sign before
  it.
* `readDecimal?_text` — a finite decimal within bounds is read back from
  its text as it was: also its exponent, and the sign of a zero.
-/
import Polyschema.Proofs.Digits

namespace Polyschema.Number

open Polyschema Polyschema.Text

/-! ## Bounds -/

/-- The exponent of a finite decimal is within the bounds of the
format. -/
def Decimal.Bounded : Decimal → Prop
  | .finite _ coefficient exponent =>
    exponent + digitCount coefficient - 1 ≤ greatestExponent ∧ leastExponent ≤ exponent
  | _ => True

instance (d : Decimal) : Decidable d.Bounded :=
  match d with
  | .finite _ _ _ => inferInstanceAs (Decidable (_ ∧ _))
  | .infinite _ | .nan _ _ _ => inferInstanceAs (Decidable True)

theorem boundedDecimal_of_bounded {negative : Bool} {coefficient : Nat} {exponent : Int}
    (h : (Decimal.finite negative coefficient exponent).Bounded) :
    boundedDecimal negative coefficient exponent =
      some (.finite negative coefficient exponent) :=
  if_pos h

/-! ## Digits with a point and an exponent -/

variable {whole part tail : List Char} {power : Int}

/-- What may follow the digits of a number: nothing, or an exponent. -/
def OpensExponent (tail : List Char) : Prop :=
  tail = [] ∨ ∃ mark rest, (mark = 'e' ∨ mark = 'E') ∧ tail = mark :: rest

theorem OpensExponent.endsDigits (h : OpensExponent tail) : EndsDigits tail := by
  obtain rfl | ⟨mark, rest, rfl | rfl, rfl⟩ := h
  · exact endsDigits_nil
  · exact endsDigits_cons (by decide)
  · exact endsDigits_cons (by decide)

/-- Digits without a point. -/
theorem readScientific_whole (hw : ∀ c ∈ whole, c.isDigit = true) (hne : whole ≠ [])
    (ht : OpensExponent tail) (hp : readExponent tail = some power) :
    readScientific (whole ++ tail) = some (digitsValue whole, power) := by
  have hempty : whole.isEmpty = false := by simpa using hne
  unfold readScientific
  rw [takeWhile_digits hw ht.endsDigits, dropWhile_digits hw ht.endsDigits]
  obtain rfl | ⟨mark, rest, rfl | rfl, rfl⟩ := ht
  · simp [hempty, hp]
  · simp [hempty, hp]
  · simp [hempty, hp]

/-- Digits before and after a point. -/
theorem readScientific_part (hw : ∀ c ∈ whole, c.isDigit = true) (hne : whole ≠ [])
    (hd : ∀ c ∈ part, c.isDigit = true) (ht : OpensExponent tail)
    (hp : readExponent tail = some power) :
    readScientific (whole ++ '.' :: (part ++ tail)) =
      some (digitsValue (whole ++ part), power - part.length) := by
  have hempty : whole.isEmpty = false := by simpa using hne
  have hpoint : EndsDigits ('.' :: (part ++ tail)) := endsDigits_cons (by decide)
  unfold readScientific
  rw [takeWhile_digits hw hpoint, dropWhile_digits hw hpoint]
  simp [takeWhile_digits hd ht.endsDigits, dropWhile_digits hd ht.endsDigits, hempty, hp]

/-- Digits with a point in them, before them or after them. -/
theorem readScientific_pointed {ds : List Char} (hd : ∀ c ∈ ds, c.isDigit = true)
    (hne : ds ≠ []) (left : Int) (hleft : left ≤ ds.length) (ht : OpensExponent tail)
    (hp : readExponent tail = some power) :
    readScientific (Decimal.pointed ds left ++ tail) =
      some (digitsValue ds, power + left - ds.length) := by
  unfold Decimal.pointed
  split
  next hzero =>
    have hzeros : ∀ c ∈ List.replicate (-left).toNat '0' ++ ds, c.isDigit = true :=
      List.forall_mem_append.mpr ⟨isDigit_zeros _, hd⟩
    have hfirst : ∀ c ∈ ['0'], c.isDigit = true := List.forall_mem_singleton.mpr (by decide)
    have h := readScientific_part hfirst (by decide) hzeros ht hp
    have hvalue : digitsValue (['0'] ++ (List.replicate (-left).toNat '0' ++ ds)) =
        digitsValue ds := digitsValue_zeros ((-left).toNat + 1) ds
    rw [hvalue, List.length_append, List.length_replicate] at h
    simp only [List.cons_append, List.nil_append] at h ⊢
    rw [h]
    congr 2
    omega
  next hpos =>
    split
    next hall =>
      have hlength : left.toNat - ds.length = 0 := by omega
      have heq : power + left - ds.length = power := by omega
      rw [hlength, List.replicate_zero, List.append_nil, heq]
      exact readScientific_whole hd hne ht hp
    next hsome =>
      have hfront : ∀ c ∈ ds.take left.toNat, c.isDigit = true :=
        fun c hc => hd c (List.mem_of_mem_take hc)
      have hback : ∀ c ∈ ds.drop left.toNat, c.isDigit = true :=
        fun c hc => hd c (List.mem_of_mem_drop hc)
      have htake : ds.take left.toNat ≠ [] := by
        rw [ne_eq, List.take_eq_nil_iff]
        rintro (h | h)
        · omega
        · exact hne h
      have h := readScientific_part hfront htake hback ht hp
      rw [List.take_append_drop, List.length_drop] at h
      rw [List.append_assoc, List.cons_append, h]
      congr 2
      omega

/-- An exponent is a mark, a sign and digits. -/
theorem readExponent_digits {mark : Char} (hm : mark = 'e' ∨ mark = 'E') {ds : List Char}
    (hd : ∀ c ∈ ds, c.isDigit = true) (hne : ds ≠ []) {n : Int}
    (hvalue : digitsValue ds = n.natAbs) :
    readExponent (mark :: (if n < 0 then '-' else '+') :: ds) = some n := by
  have hdigits : ds.all Char.isDigit = true := List.all_eq_true.mpr hd
  have hempty : ds.isEmpty = false := by simpa using hne
  split
  next h =>
    have hnegative : -(n.natAbs : Int) = n := by omega
    simpa [readExponent, takeSign, hm, hdigits, hempty, hvalue] using hnegative
  next h =>
    have hpositive : (n.natAbs : Int) = n := by omega
    simpa [readExponent, takeSign, hm, hdigits, hempty, hvalue] using hpositive

theorem toList_signedText (n : Int) : (Decimal.signedText n).toList =
    (if n < 0 then '-' else '+') :: Nat.toDigits 10 n.natAbs := by
  rw [Decimal.signedText, String.toList_append, toList_natText]
  split <;> rfl

/-- The exponent of a number is read back from its text. -/
theorem readExponent_signedText (n : Int) :
    readExponent ('E' :: (Decimal.signedText n).toList) = some n := by
  rw [toList_signedText]
  exact readExponent_digits (.inr rfl) (isDigit_toDigits n.natAbs) Nat.toDigits_ne_nil
    (digitsValue_toDigits n.natAbs)

/-! ## Characters that reading leaves alone -/

/-- A character that reading a decimal neither drops nor changes. -/
def Kept (c : Char) : Prop := isBlank c = false ∧ c ≠ '_' ∧ plainDigit c = c

theorem kept_of_isDigit {c : Char} (h : c.isDigit = true) : Kept c := by
  have hval := h
  simp only [Char.isDigit, Bool.and_eq_true, decide_eq_true_eq, ge_iff_le,
    UInt32.le_iff_toNat_le] at hval
  have hcode : 48 ≤ c.toNat ∧ c.toNat ≤ 57 := hval
  refine ⟨?_, ?_, ?_⟩
  · simp [isBlank, isSpace, inRanges, spaceRanges]
    omega
  · rintro rfl
    exact absurd h (by decide)
  · have hascii : c.toNat < 0x80 := by omega
    simp only [plainDigit, digitValue?, if_pos hascii, if_pos h]
    rw [show 0x30 + (c.toNat - 0x30) = c.toNat by omega, Char.ofNat_toNat]

theorem kept_of_mark {c : Char} (h : c ∈ ['.', '-', '+', 'e', 'E']) : Kept c := by
  simp only [List.mem_cons, List.not_mem_nil, or_false] at h
  rcases h with rfl | rfl | rfl | rfl | rfl <;> exact ⟨by decide, by decide, by decide⟩

theorem trimChars_of_none {outer : Char → Bool} {cs : List Char}
    (h : ∀ c ∈ cs, outer c = false) : trimChars outer cs = cs := by
  have hfront : ∀ l : List Char, (∀ c ∈ l, outer c = false) → l.dropWhile outer = l := by
    intro l hl
    cases l with
    | nil => rfl
    | cons c l => simp [hl c List.mem_cons_self]
  unfold trimChars
  rw [hfront cs h, hfront cs.reverse fun c hc => h c (List.mem_reverse.mp hc),
    List.reverse_reverse]

/-- A text of such characters is read as it stands. -/
theorem plain_of_kept {cs : List Char} (h : ∀ c ∈ cs, Kept c) :
    ((trimChars isBlank cs).filter (· != '_')).map plainDigit = cs := by
  have hfilter : cs.filter (· != '_') = cs :=
    List.filter_eq_self.mpr fun c hc => by simpa using (h c hc).2.1
  rw [trimChars_of_none fun c hc => (h c hc).1, hfilter]
  exact (List.map_congr_left fun c hc => (h c hc).2.2).trans (List.map_id cs)

theorem kept_pointed {ds : List Char} (hd : ∀ c ∈ ds, c.isDigit = true) (left : Int) :
    ∀ c ∈ Decimal.pointed ds left, Kept c := by
  have hpoint : Kept '.' := kept_of_mark (by decide)
  have hzero : Kept '0' := kept_of_isDigit (by decide)
  intro c hc
  unfold Decimal.pointed at hc
  split at hc
  · simp only [List.mem_cons, List.mem_append, List.mem_replicate] at hc
    rcases hc with rfl | rfl | ⟨_, rfl⟩ | hc
    · exact hzero
    · exact hpoint
    · exact hzero
    · exact kept_of_isDigit (hd c hc)
  · split at hc
    · simp only [List.mem_append, List.mem_replicate] at hc
      rcases hc with hc | ⟨_, rfl⟩
      · exact kept_of_isDigit (hd c hc)
      · exact hzero
    · simp only [List.mem_append, List.mem_cons] at hc
      rcases hc with hc | rfl | hc
      · exact kept_of_isDigit (hd c (List.mem_of_mem_take hc))
      · exact hpoint
      · exact kept_of_isDigit (hd c (List.mem_of_mem_drop hc))

theorem kept_signedText (n : Int) : ∀ c ∈ (Decimal.signedText n).toList, Kept c := by
  intro c hc
  rw [toList_signedText, List.mem_cons] at hc
  rcases hc with rfl | hc
  · split <;> exact kept_of_mark (by decide)
  · exact kept_of_isDigit (isDigit_toDigits n.natAbs c hc)

/-- Digits with a point begin with a digit. -/
theorem pointed_eq_cons {ds : List Char} (hd : ∀ c ∈ ds, c.isDigit = true) (hne : ds ≠ [])
    (left : Int) : ∃ c cs, Decimal.pointed ds left = c :: cs ∧ c.isDigit = true := by
  obtain ⟨d, rest, rfl⟩ := List.exists_cons_of_ne_nil hne
  have hdigit := hd d List.mem_cons_self
  unfold Decimal.pointed
  split
  · exact ⟨'0', _, rfl, by decide⟩
  · split
    · exact ⟨d, _, rfl, hdigit⟩
    · obtain ⟨k, hk⟩ : ∃ k, left.toNat = k + 1 := ⟨left.toNat - 1, by omega⟩
      rw [hk]
      exact ⟨d, _, rfl, hdigit⟩

/-! ## The text of a decimal -/

theorem toLower_of_isDigit {c : Char} (h : c.isDigit = true) : c.toLower = c := by
  simp only [Char.isDigit, Bool.and_eq_true, decide_eq_true_eq] at h
  exact dif_neg fun hupper => absurd (UInt32.le_trans hupper.1 h.2) (by decide)

/-- A number that begins with a digit spells no word. -/
theorem spells_of_isDigit {c : Char} (hc : c.isDigit = true) (cs : List Char) (word : String)
    (hw : word.toList.head?.any Char.isDigit = false) (hne : word.toList ≠ []) :
    spells (c :: cs) word = false := by
  obtain ⟨w, ws, hword⟩ := List.exists_cons_of_ne_nil hne
  have hdiffers : c ≠ w := by
    rintro rfl
    rw [hword] at hw
    exact Bool.false_ne_true (hw.symm.trans hc)
  simp [spells, hword, toLower_of_isDigit hc, hdiffers]

theorem readPayload_of_isDigit {c : Char} (hc : c.isDigit = true) (cs : List Char)
    (word : String) (hw : word.toList.head?.any Char.isDigit = false)
    (hpos : 0 < word.length) : readPayload (c :: cs) word = none := by
  obtain ⟨k, hk⟩ : ∃ k, word.length = k + 1 := ⟨word.length - 1, by omega⟩
  have hne : word.toList ≠ [] := by
    rw [← List.length_pos_iff, String.length_toList]
    exact hpos
  unfold readPayload
  rw [hk, List.take_succ_cons, spells_of_isDigit hc _ word hw hne]
  simp

/-- The digits and the exponent in the text of a finite decimal. -/
def unsignedChars (coefficient : Nat) (exponent : Int) : List Char :=
  let ds := Nat.toDigits 10 coefficient
  let left := Int.ofNat ds.length + exponent
  if exponent ≤ 0 ∧ -6 < left then Decimal.pointed ds left
  else Decimal.pointed ds 1 ++
    if left = 1 then [] else 'E' :: (Decimal.signedText (left - 1)).toList

theorem Decimal.toList_text (negative : Bool) (coefficient : Nat) (exponent : Int) :
    (Decimal.finite negative coefficient exponent).text.toList =
      (if negative then ['-'] else []) ++ unsignedChars coefficient exponent := by
  have hsign : (if negative then "-" else "").toList = if negative then ['-'] else [] := by
    cases negative <;> rfl
  have hpower (left : Int) : (if left = 1 then "" else "E" ++ signedText (left - 1)).toList =
      if left = 1 then [] else 'E' :: (signedText (left - 1)).toList := by
    split
    · rfl
    · simp
  simp only [Decimal.text, unsignedChars, toList_natText]
  split
  · rw [String.toList_append, String.toList_ofList, hsign]
  · rw [String.toList_append, String.toList_append, String.toList_ofList, hsign, hpower,
      List.append_assoc]

theorem readScientific_unsigned (coefficient : Nat) (exponent : Int) :
    readScientific (unsignedChars coefficient exponent) = some (coefficient, exponent) := by
  have hd := isDigit_toDigits coefficient
  have hne : Nat.toDigits 10 coefficient ≠ [] := Nat.toDigits_ne_nil
  have hlength := List.length_pos_iff.mpr hne
  have hnone : OpensExponent [] := .inl rfl
  unfold unsignedChars
  simp only [Int.ofNat_eq_natCast]
  split
  next h =>
    have hread := readScientific_pointed hd hne
      ((Nat.toDigits 10 coefficient).length + exponent) (by omega) hnone rfl
    rw [List.append_nil, digitsValue_toDigits] at hread
    rw [hread]
    congr 2
    omega
  next =>
    split
    next h =>
      have hread := readScientific_pointed hd hne 1 (by omega) hnone rfl
      rw [digitsValue_toDigits] at hread
      rw [hread]
      congr 2
      omega
    next =>
      have hread := readScientific_pointed hd hne 1 (by omega) (.inr ⟨_, _, .inr rfl, rfl⟩)
        (readExponent_signedText ((Nat.toDigits 10 coefficient).length + exponent - 1))
      rw [digitsValue_toDigits] at hread
      rw [hread]
      congr 2
      omega

theorem unsignedChars_eq_cons (coefficient : Nat) (exponent : Int) :
    ∃ c cs, unsignedChars coefficient exponent = c :: cs ∧ c.isDigit = true := by
  have hd := isDigit_toDigits coefficient
  have hne : Nat.toDigits 10 coefficient ≠ [] := Nat.toDigits_ne_nil
  unfold unsignedChars
  simp only
  split
  · exact pointed_eq_cons hd hne _
  · obtain ⟨c, cs, h, hc⟩ := pointed_eq_cons hd hne 1
    exact ⟨c, _, by rw [h, List.cons_append], hc⟩

theorem kept_unsigned (coefficient : Nat) (exponent : Int) :
    ∀ c ∈ unsignedChars coefficient exponent, Kept c := by
  intro c hc
  have hd := isDigit_toDigits coefficient
  simp only [unsignedChars] at hc
  split at hc
  · exact kept_pointed hd _ c hc
  · rcases List.mem_append.mp hc with hc | hc
    · exact kept_pointed hd _ c hc
    · split at hc
      · cases hc
      · rcases List.mem_cons.mp hc with rfl | hc
        · exact kept_of_mark (by decide)
        · exact kept_signedText _ c hc

theorem takeSign_of_isDigit {c : Char} (h : c.isDigit = true) (cs : List Char) :
    takeSign (c :: cs) = (false, c :: cs) := by
  unfold takeSign
  split
  next heq => exact absurd ((List.cons.inj heq).1 ▸ h) (by decide)
  next heq => exact absurd ((List.cons.inj heq).1 ▸ h) (by decide)
  next => rfl

/-- An unsigned number that begins with a digit and is read, by itself or
after a sign, as a coefficient and a power of ten. -/
structure ReadsAs (cs : List Char) (coefficient : Nat) (exponent : Int) : Prop where
  first : ∃ c rest, cs = c :: rest ∧ c.isDigit = true
  kept : ∀ c ∈ cs, Kept c
  read : readScientific cs = some (coefficient, exponent)

/-- Digits with a point, and an exponent. -/
theorem readsAs_pointed {ds : List Char} (hd : ∀ c ∈ ds, c.isDigit = true) (hne : ds ≠ [])
    (left : Int) (hleft : left ≤ ds.length) (ht : OpensExponent tail)
    (hk : ∀ c ∈ tail, Kept c) (hp : readExponent tail = some power) :
    ReadsAs (Decimal.pointed ds left ++ tail) (digitsValue ds) (power + left - ds.length) where
  first := by
    obtain ⟨c, cs, h, hc⟩ := pointed_eq_cons hd hne left
    exact ⟨c, cs ++ tail, by rw [h, List.cons_append], hc⟩
  kept c hc := (List.mem_append.mp hc).elim (kept_pointed hd left c) (hk c)
  read := readScientific_pointed hd hne left hleft ht hp

theorem readsAs_unsigned (coefficient : Nat) (exponent : Int) :
    ReadsAs (unsignedChars coefficient exponent) coefficient exponent :=
  ⟨unsignedChars_eq_cons coefficient exponent, kept_unsigned coefficient exponent,
    readScientific_unsigned coefficient exponent⟩

section

variable {cs : List Char} {coefficient : Nat} {exponent : Int}

/-- The sign is taken off an unsigned number. -/
theorem ReadsAs.takeSign_eq (h : ReadsAs cs coefficient exponent) (negative : Bool) :
    takeSign ((if negative then ['-'] else []) ++ cs) = (negative, cs) := by
  cases negative with
  | true => rfl
  | false =>
    obtain ⟨c, rest, rfl, hc⟩ := h.first
    exact takeSign_of_isDigit hc rest

/-- A sign and an unsigned number are read as a decimal, if the exponent
is within bounds. -/
theorem ReadsAs.readDecimal?_eq (h : ReadsAs cs coefficient exponent) {s : String}
    {negative : Bool} (hs : s.toList = (if negative then ['-'] else []) ++ cs)
    (hb : (Decimal.finite negative coefficient exponent).Bounded) :
    readDecimal? s = some (.finite negative coefficient exponent) := by
  have hkept : ∀ c ∈ s.toList, Kept c := by
    intro c hc
    rw [hs, List.mem_append] at hc
    rcases hc with hc | hc
    · cases negative with
      | true =>
        obtain rfl := List.mem_singleton.mp hc
        exact kept_of_mark (by decide)
      | false => cases hc
    · exact h.kept c hc
  have hread := h.read
  unfold readDecimal?
  rw [plain_of_kept hkept, hs]
  simp only [h.takeSign_eq negative]
  obtain ⟨c, rest, rfl, hc⟩ := h.first
  simp only [spells_of_isDigit hc _ "inf" (by decide) (by decide),
    spells_of_isDigit hc _ "infinity" (by decide) (by decide),
    readPayload_of_isDigit hc _ "nan" (by decide) (by decide),
    readPayload_of_isDigit hc _ "snan" (by decide) (by decide), hread]
  exact boundedDecimal_of_bounded hb

end

/-- The sign of a decimal is taken off its text. -/
theorem takeSign_unsigned (negative : Bool) (coefficient : Nat) (exponent : Int) :
    takeSign ((if negative then ['-'] else []) ++ unsignedChars coefficient exponent) =
      (negative, unsignedChars coefficient exponent) :=
  (readsAs_unsigned coefficient exponent).takeSign_eq negative

/-- A finite decimal within bounds is read back from its text, with its
exponent and its sign. -/
theorem readDecimal?_text {negative : Bool} {coefficient : Nat} {exponent : Int}
    (h : (Decimal.finite negative coefficient exponent).Bounded) :
    readDecimal? (Decimal.finite negative coefficient exponent).text =
      some (.finite negative coefficient exponent) :=
  (readsAs_unsigned coefficient exponent).readDecimal?_eq (Decimal.toList_text ..) h

end Polyschema.Number
