/-
Polyschema.Proofs.Iso — the ISO 8601 text of days and moments, read
again.

* `Date.read?_text` — a day is read back from its text.
* `Timestamp.read?_text` — a moment is read back from its text with its
  offset as far as `Offset.asRead` keeps it.
* `Timestamp.same_asRead_iff` — so it is the same point in time unless
  its offset is of less than a second.
-/
import Polyschema.Proofs.Digits

namespace Polyschema.Calendar

open Polyschema

/-! ## Days -/

theorem monthLength_le (year month : Nat) : monthLength year month ≤ 31 := by
  unfold monthLength
  split
  · exact Nat.zero_le _
  · cases h : (monthLengths year)[month - 1]? with
    | none => exact Nat.zero_le _
    | some length =>
      have hmem := List.mem_of_getElem? h
      simp only [monthLengths, List.mem_cons, List.not_mem_nil, or_false] at hmem
      show length ≤ 31
      split at hmem <;> omega

/-- There are twelve months. -/
theorem month_le_of_monthLength_pos {year month : Nat} (h : 0 < monthLength year month) :
    month ≤ 12 := by
  unfold monthLength at h
  split at h
  · exact absurd h (Nat.lt_irrefl 0)
  · cases hm : (monthLengths year)[month - 1]? with
    | none => simp [hm] at h
    | some length =>
      obtain ⟨hlt, _⟩ := List.getElem?_eq_some_iff.mp hm
      simp only [monthLengths, List.length_cons, List.length_nil] at hlt
      omega

/-- The parts of a day fit the places that its text has for them. -/
theorem Date.parts_lt (d : Date) : d.year < 10 ^ 4 ∧ d.month < 10 ^ 2 ∧ d.day < 10 ^ 2 := by
  have h := d.valid
  simp only [isDay, Bool.and_eq_true, decide_eq_true_eq] at h
  obtain ⟨⟨⟨_, hyear⟩, hpos⟩, hday⟩ := h
  have hlength := monthLength_le d.year d.month
  have hmonth := month_le_of_monthLength_pos (Nat.lt_of_lt_of_le hpos hday)
  omega

/-- The text of a day as characters. -/
theorem Date.toList_text (d : Date) : d.text.toList =
    (padded 4 d.year).toList ++ '-' :: ((padded 2 d.month).toList ++
      '-' :: (padded 2 d.day).toList) := by
  simp [Date.text]

theorem Date.length_text (d : Date) : d.text.toList.length = 10 := by
  obtain ⟨hyear, hmonth, hday⟩ := d.parts_lt
  rw [Date.toList_text]
  simp only [List.length_append, List.length_cons, length_padded (by decide) hyear,
    length_padded (by decide) hmonth, length_padded (by decide) hday]

/-- A day is read from its text, whatever follows. -/
theorem readDate?_text (d : Date) (rest : List Char) :
    readDate? (d.text.toList ++ rest) = some d := by
  obtain ⟨hyear, hmonth, hday⟩ := d.parts_lt
  obtain ⟨c, cs, hcs, hc⟩ := padded_eq_cons 2 d.month
  have hm : takeDigits 0 2 (c :: cs ++ '-' :: ((Date.padded 2 d.day).toList ++ rest)) =
      some (d.month, '-' :: ((Date.padded 2 d.day).toList ++ rest)) := by
    rw [← hcs]
    exact takeDigits_padded 2 (by decide) hmonth _
  rw [Date.toList_text, hcs]
  simp only [List.append_assoc, List.cons_append]
  unfold readDate?
  rw [takeDigits_padded 4 (by decide) hyear]
  simp only [Option.bind_eq_bind, Option.bind_some, List.head?_cons, beq_self_eq_true,
    if_true, List.drop_succ_cons, List.drop_zero]
  split
  next h =>
    -- a month does not begin with the letter of a week
    obtain ⟨rfl, _⟩ := List.cons.inj h
    exact absurd hc (by decide)
  next =>
    rw [List.cons_append] at hm
    rw [hm]
    simp only [Option.bind_some, takeHyphen, if_true]
    rw [takeDigits_padded 2 (by decide) hday]
    exact Date.of?_parts d

/-- A text of ASCII characters has a byte for each. -/
theorem utf8ByteSize_of_ascii {cs : List Char} (h : ∀ c ∈ cs, c.val ≤ 127) :
    (String.ofList cs).utf8ByteSize = cs.length := by
  induction cs with
  | nil => rfl
  | cons c cs ih =>
    obtain ⟨hc, hcs⟩ := List.forall_mem_cons.mp h
    have hsplit : String.ofList (c :: cs) = String.singleton c ++ String.ofList cs := by
      rw [← String.toList_inj]
      simp
    rw [hsplit, String.utf8ByteSize_append, String.utf8ByteSize_singleton,
      Char.utf8Size_eq_one_iff.mpr hc, ih hcs, List.length_cons]
    omega

theorem val_le_of_isDigit {c : Char} (h : c.isDigit = true) : c.val ≤ 127 := by
  simp only [Char.isDigit, Bool.and_eq_true, decide_eq_true_eq] at h
  exact UInt32.le_trans h.2 (by decide)

theorem Date.utf8ByteSize_text (d : Date) : d.text.utf8ByteSize = 10 := by
  rw [← String.ofList_toList (s := d.text), utf8ByteSize_of_ascii, Date.length_text]
  intro c hc
  simp only [Date.toList_text, List.mem_append, List.mem_cons] at hc
  rcases hc with hc | rfl | hc | rfl | hc
  · exact val_le_of_isDigit (isDigit_padded 4 d.year c hc)
  · decide
  · exact val_le_of_isDigit (isDigit_padded 2 d.month c hc)
  · decide
  · exact val_le_of_isDigit (isDigit_padded 2 d.day c hc)

/-- A day is read back from its text. -/
theorem Date.read?_text (d : Date) : Date.read? d.text = some d := by
  have h := readDate?_text d []
  rw [List.append_nil] at h
  unfold Date.read?
  rw [Date.utf8ByteSize_text, if_pos (by decide), h]

/-! ## Times -/

/-- Parts of a second as they stand in a text: not at all, or six
digits after a point. -/
def fractionChars (microsecond : Nat) : List Char :=
  if microsecond = 0 then [] else '.' :: (Date.padded 6 microsecond).toList

theorem toList_fraction (microsecond : Nat) :
    (if microsecond = 0 then "" else "." ++ Date.padded 6 microsecond).toList =
      fractionChars microsecond := by
  unfold fractionChars
  split
  · rfl
  · simp

theorem padded_append_ne_nil (width n : Nat) (rest : List Char) :
    (Date.padded width n).toList ++ rest ≠ [] := by
  obtain ⟨c, cs, h, _⟩ := padded_eq_cons width n
  simp [h]

theorem afterPart?_colon {cs : List Char} (h : cs ≠ []) :
    afterPart? true (':' :: cs) = some (.more cs) := by
  cases cs with
  | nil => exact absurd rfl h
  | cons c cs => rfl

theorem afterPart?_point {cs : List Char} (h : cs ≠ []) :
    afterPart? true ('.' :: cs) = some (.fraction cs) := by
  cases cs with
  | nil => exact absurd rfl h
  | cons c cs => rfl

theorem readFraction?_padded (hour minute second : Nat) {microsecond : Nat}
    (h : microsecond < 10 ^ 6) :
    readFraction? hour minute second (Date.padded 6 microsecond).toList =
      some ⟨hour, minute, second, microsecond, false⟩ := by
  have htake := takeDigits_padded 6 (by decide) h []
  rw [List.append_nil] at htake
  unfold readFraction?
  rw [length_padded (by decide) h]
  simp [htake, millionths]

variable {hour minute second microsecond : Nat}

/-- Hours and minutes are read as a time. -/
theorem readClock?_minutes (hh : hour < 10 ^ 2) (hm : minute < 10 ^ 2) :
    readClock? ((Date.padded 2 hour).toList ++ ':' :: (Date.padded 2 minute).toList) =
      some ⟨hour, minute, 0, 0, false⟩ := by
  have hmin := takeDigits_padded 2 (by decide) hm []
  have hne := padded_append_ne_nil 2 minute []
  rw [List.append_nil] at hmin hne
  unfold readClock?
  rw [takeDigits_padded 2 (by decide) hh]
  simp only [Option.bind_eq_bind, Option.bind_some, List.head?_cons, beq_self_eq_true,
    afterPart?_colon hne, hmin]
  rfl

/-- Hours, minutes and seconds are read as a time, with the parts of a
second that follow. -/
theorem readClock?_seconds (hh : hour < 10 ^ 2) (hm : minute < 10 ^ 2)
    (hs : second < 10 ^ 2) (hu : microsecond < 10 ^ 6) :
    readClock? ((Date.padded 2 hour).toList ++ ':' :: ((Date.padded 2 minute).toList ++
      ':' :: ((Date.padded 2 second).toList ++ fractionChars microsecond))) =
      some ⟨hour, minute, second, microsecond, false⟩ := by
  have hsec := takeDigits_padded 2 (by decide) hs (fractionChars microsecond)
  have hmin := takeDigits_padded 2 (by decide) hm
    (':' :: ((Date.padded 2 second).toList ++ fractionChars microsecond))
  unfold readClock?
  rw [takeDigits_padded 2 (by decide) hh]
  simp only [Option.bind_eq_bind, Option.bind_some, List.head?_cons, beq_self_eq_true,
    afterPart?_colon (padded_append_ne_nil _ _ _), hmin, hsec]
  unfold fractionChars
  split
  next h => simp [afterPart?, h]
  next h =>
    have hne := padded_append_ne_nil 6 microsecond []
    rw [List.append_nil] at hne
    simp only [afterPart?_point hne, Option.bind_some]
    exact readFraction?_padded hour minute second hu

/-- The parts of a time fit the places that its text has for them. -/
theorem Clock.parts_lt (c : Clock) : c.hour < 10 ^ 2 ∧ c.minute < 10 ^ 2 ∧
    c.second < 10 ^ 2 ∧ c.microsecond < 10 ^ 6 := by
  have h := c.valid
  simp only [Bool.and_eq_true, decide_eq_true_eq] at h
  omega

theorem Clock.toList_text (c : Clock) : c.text.toList =
    (Date.padded 2 c.hour).toList ++ ':' :: ((Date.padded 2 c.minute).toList ++
      ':' :: ((Date.padded 2 c.second).toList ++ fractionChars c.microsecond)) := by
  simp only [Clock.text, String.toList_append, toList_fraction]
  simp

/-- A time is read from its text. -/
theorem readClock?_text (c : Clock) : readClock? c.text.toList =
    some ⟨c.hour, c.minute, c.second, c.microsecond, false⟩ := by
  obtain ⟨hh, hm, hs, hu⟩ := c.parts_lt
  rw [Clock.toList_text]
  exact readClock?_seconds hh hm hs hu

/-! ## Offsets -/

/-- An offset as it is read: without a whole second it is universal
time. -/
def Offset.asRead (o : Offset) : Offset :=
  if o.microseconds.natAbs < 1000000 then .universal else o

/-- The characters of an offset after its sign. -/
def Offset.body (o : Offset) : List Char :=
  (Date.padded 2 (o.microseconds.natAbs / 1000000 / 3600)).toList ++ ':' ::
    ((Date.padded 2 (o.microseconds.natAbs / 1000000 / 60 % 60)).toList ++
      if o.microseconds.natAbs / 1000000 % 60 = 0 ∧ o.microseconds.natAbs % 1000000 = 0 then []
      else ':' :: ((Date.padded 2 (o.microseconds.natAbs / 1000000 % 60)).toList ++
        fractionChars (o.microseconds.natAbs % 1000000)))

theorem Offset.toList_text (o : Offset) : o.text.toList =
    (if o.microseconds < 0 then '-' else '+') :: o.body := by
  have hsign : (if o.microseconds < 0 then "-" else "+").toList =
      [if o.microseconds < 0 then '-' else '+'] := by
    split <;> rfl
  have htail : (if o.microseconds.natAbs / 1000000 % 60 = 0 ∧
      o.microseconds.natAbs % 1000000 = 0 then ""
      else ":" ++ Date.padded 2 (o.microseconds.natAbs / 1000000 % 60) ++
        if o.microseconds.natAbs % 1000000 = 0 then ""
        else "." ++ Date.padded 6 (o.microseconds.natAbs % 1000000)).toList =
      if o.microseconds.natAbs / 1000000 % 60 = 0 ∧ o.microseconds.natAbs % 1000000 = 0 then []
      else ':' :: ((Date.padded 2 (o.microseconds.natAbs / 1000000 % 60)).toList ++
        fractionChars (o.microseconds.natAbs % 1000000)) := by
    split
    · rfl
    · simp only [String.toList_append, toList_fraction]
      simp
  simp only [Offset.text, Offset.body, String.toList_append, hsign, htail]
  simp

/-- The time that the body of an offset is read as. -/
theorem readClock?_body (o : Offset) : readClock? o.body =
    some ⟨o.microseconds.natAbs / 1000000 / 3600, o.microseconds.natAbs / 1000000 / 60 % 60,
      o.microseconds.natAbs / 1000000 % 60, o.microseconds.natAbs % 1000000, false⟩ := by
  have hvalid : o.microseconds.natAbs < dayLength := by simpa using o.valid
  unfold dayLength at hvalid
  unfold Offset.body
  split
  next h =>
    rw [h.1, h.2, List.append_nil]
    exact readClock?_minutes (by omega) (by omega)
  next =>
    exact readClock?_seconds (by omega) (by omega) (by omega) (by omega)

theorem readOffset?_signed {sign : Char} (h : sign ≠ 'Z') {rest : List Char} {raw : RawClock}
    (hraw : readClock? rest = some raw) (htrailing : raw.trailing = false) :
    readOffset? (sign :: rest) = (raw.offset? (sign == '-')).map some := by
  unfold readOffset?
  split
  next heq => cases heq
  next heq => exact absurd (List.cons.inj heq).1 h
  next heq => exact absurd (List.cons.inj heq).1 h
  next heq =>
    obtain ⟨rfl, rfl⟩ := List.cons.inj heq
    simp only [hraw, htrailing, Option.bind_eq_bind, Option.bind_some]
    cases raw.offset? (sign == '-') <;> rfl

/-- Whole seconds are hours, minutes and seconds again. -/
theorem seconds_split (n : Nat) : (n / 3600 * 60 + n / 60 % 60) * 60 + n % 60 = n := by
  omega

/-- The offset of the time that its body is read as. -/
theorem offset?_body (o : Offset) :
    RawClock.offset? (decide (o.microseconds < 0)) ⟨o.microseconds.natAbs / 1000000 / 3600,
      o.microseconds.natAbs / 1000000 / 60 % 60, o.microseconds.natAbs / 1000000 % 60,
      o.microseconds.natAbs % 1000000, false⟩ = some o.asRead := by
  simp only [RawClock.offset?, seconds_split, Nat.div_add_mod']
  unfold Offset.asRead
  by_cases hsmall : o.microseconds.natAbs < 1000000
  · rw [if_pos (Nat.div_eq_of_lt hsmall), if_pos hsmall]
  · have hseconds : ¬ o.microseconds.natAbs / 1000000 = 0 := by omega
    have htotal : (if decide (o.microseconds < 0) = true then
        -Int.ofNat o.microseconds.natAbs else Int.ofNat o.microseconds.natAbs) =
        o.microseconds := by
      simp only [decide_eq_true_eq, Int.ofNat_eq_natCast]
      split <;> omega
    rw [if_neg hseconds, if_neg hsmall, htotal]
    exact dif_pos o.valid

/-- An offset is read back from its text as far as whole seconds
carry it. -/
theorem readOffset?_text (o : Offset) :
    readOffset? o.text.toList = some (some o.asRead) := by
  have hsign : (if o.microseconds < 0 then '-' else '+') ≠ 'Z' := by
    split <;> decide
  have hnegative : ((if o.microseconds < 0 then '-' else '+') == '-') =
      decide (o.microseconds < 0) := by
    split <;> simp [*]
  rw [Offset.toList_text, readOffset?_signed hsign (readClock?_body o) rfl, hnegative,
    offset?_body]
  rfl

/-! ## Moments -/

/-- A moment as it is read back. -/
def Timestamp.asRead (t : Timestamp) : Timestamp :=
  { t with offset := t.offset.map Offset.asRead }

theorem opensOffset_of_isDigit {c : Char} (h : c.isDigit = true) : opensOffset c = false := by
  unfold opensOffset
  have h₁ : c ≠ '+' := by rintro rfl; exact absurd h (by decide)
  have h₂ : c ≠ '-' := by rintro rfl; exact absurd h (by decide)
  have h₃ : c ≠ 'Z' := by rintro rfl; exact absurd h (by decide)
  simp [h₁, h₂, h₃]

/-- Nothing in the text of a time opens an offset. -/
theorem opensOffset_clock (c : Clock) : ∀ d ∈ c.text.toList, (!opensOffset d) = true := by
  intro d hd
  rw [Bool.not_eq_true']
  simp only [Clock.toList_text, fractionChars, List.mem_append, List.mem_cons] at hd
  rcases hd with hd | rfl | hd | rfl | hd | hd
  · exact opensOffset_of_isDigit (isDigit_padded _ _ d hd)
  · decide
  · exact opensOffset_of_isDigit (isDigit_padded _ _ d hd)
  · decide
  · exact opensOffset_of_isDigit (isDigit_padded _ _ d hd)
  · split at hd
    · cases hd
    · rcases List.mem_cons.mp hd with rfl | hd
      · decide
      · exact opensOffset_of_isDigit (isDigit_padded _ _ d hd)

/-- The offset of a moment as characters. -/
def offsetChars (o : Option Offset) : List Char := ((o.map Offset.text).getD "").toList

/-- An offset is opened by its first character. -/
theorem offsetChars_eq (o : Option Offset) :
    offsetChars o = [] ∨ ∃ c cs, offsetChars o = c :: cs ∧ opensOffset c = true := by
  cases o with
  | none => exact .inl rfl
  | some o =>
    refine .inr ⟨_, _, Offset.toList_text o, ?_⟩
    split <;> decide

/-- A time with its offset is read from its text. -/
theorem readTime?_text (c : Clock) (o : Option Offset) :
    readTime? (c.text.toList ++ offsetChars o) = some (c, o.map Offset.asRead) := by
  have hclock := opensOffset_clock c
  have hoffset : readOffset? (offsetChars o) = some (o.map Offset.asRead) := by
    cases o with
    | none => rfl
    | some o => exact readOffset?_text o
  have htake : (c.text.toList ++ offsetChars o).takeWhile (!opensOffset ·) =
      c.text.toList := by
    rw [List.takeWhile_append_of_pos hclock]
    obtain h | ⟨d, ds, h, hd⟩ := offsetChars_eq o <;> simp [*]
  have hdrop : (c.text.toList ++ offsetChars o).dropWhile (!opensOffset ·) =
      offsetChars o := by
    rw [List.dropWhile_append_of_pos hclock]
    obtain h | ⟨d, ds, h, hd⟩ := offsetChars_eq o <;> simp [*]
  unfold readTime?
  rw [htake, hdrop, readClock?_text]
  simp [hoffset, Clock.of?_parts]

theorem Timestamp.toList_text (t : Timestamp) : t.text.toList =
    t.date.text.toList ++ 'T' :: (t.clock.text.toList ++ offsetChars t.offset) := by
  simp [Timestamp.text, offsetChars]

/-- The day of a moment takes ten characters of its text. -/
theorem dateLength_text (d : Date) (rest : List Char) :
    dateLength (d.text.toList ++ 'T' :: rest) = some 10 := by
  have hyear := length_padded (by decide : 0 < 4) d.parts_lt.1
  have hlength : (d.text.toList ++ 'T' :: rest).length ≠ 7 := by
    rw [List.length_append, Date.length_text]
    omega
  have hhyphen : (d.text.toList ++ 'T' :: rest)[4]? = some '-' := by
    rw [Date.toList_text, List.append_assoc, List.getElem?_append_right (by omega), hyear]
    rfl
  obtain ⟨c, cs, hcs, hc⟩ := padded_eq_cons 2 d.month
  have hmonth : (d.text.toList ++ 'T' :: rest)[5]? = some c := by
    rw [Date.toList_text, hcs, List.append_assoc, List.getElem?_append_right (by omega), hyear]
    rfl
  have hweek : c ≠ 'W' := by
    rintro rfl
    exact absurd hc (by decide)
  unfold dateLength
  simp only [if_neg hlength, hhyphen, hmonth, beq_self_eq_true, if_true]
  rw [if_neg (by simpa using hweek)]

/-- A moment is read back from its text with its offset as far as whole
seconds carry it. -/
theorem Timestamp.read?_text (t : Timestamp) : Timestamp.read? t.text = some t.asRead := by
  have hlength : ¬ t.text.toList.length < 7 := by
    rw [Timestamp.toList_text, List.length_append, Date.length_text]
    omega
  have htake : t.text.toList.take 10 = t.date.text.toList := by
    rw [Timestamp.toList_text]
    exact List.take_left' (Date.length_text _)
  have hdrop : t.text.toList.drop 10 = 'T' :: (t.clock.text.toList ++ offsetChars t.offset) := by
    rw [Timestamp.toList_text]
    exact List.drop_left' (Date.length_text _)
  have hdate := readDate?_text t.date []
  rw [List.append_nil] at hdate
  have hsplit : dateLength t.text.toList = some 10 := by
    rw [Timestamp.toList_text]
    exact dateLength_text _ _
  unfold Timestamp.read?
  simp only [if_neg hlength, hsplit, Option.bind_eq_bind, Option.bind_some, htake, hdate, hdrop,
    readTime?_text]
  rfl

/-! ## Points in time -/

/-- An offset that reading keeps: none at all, or one of a second or
more. -/
def Offset.Kept (o : Offset) : Prop := o.microseconds = 0 ∨ 1000000 ≤ o.microseconds.natAbs

/-- What is read back is the same point in time exactly where the offset
is kept. -/
theorem Timestamp.same_asRead_iff (t : Timestamp) :
    t.asRead.same t = true ↔ ∀ o, t.offset = some o → o.Kept := by
  unfold Timestamp.same Timestamp.asRead
  cases h : t.offset with
  | none => simp [Timestamp.localTime]
  | some o =>
    have hlocal : Timestamp.localTime { t with offset := some o.asRead } = t.localTime := rfl
    simp only [Option.map_some, hlocal, beq_iff_eq, Option.some.injEq, forall_eq']
    unfold Offset.asRead Offset.Kept
    split
    · simp only [Offset.universal]
      omega
    · simp
      omega

end Polyschema.Calendar
