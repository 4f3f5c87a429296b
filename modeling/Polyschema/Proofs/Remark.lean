/-
Polyschema.Proofs.Remark — what is left of a text without its remarks.

* `codeLines` — the lines of a text but for those that open with the mark
  of a remark.
* `strayLines` — the lines of a caller's words that are left although the
  words stand in a remark.
* `Laid` — a text that is made of code and of words in remarks.
* `Laid.codeLines_eq_iff` — so two texts of the same code have the same
  lines exactly where no words stray.
-/
import Polyschema.Proofs.Pieces

namespace Polyschema.Text

variable {mark : String}

/-! ## Lines -/

/-- The lines of a text. -/
def lineList (s : String) : List (List Char) := s.toList.splitOn '\n'

/-- The lines of texts that are put together as lines are their lines. -/
theorem lineList_lines {pieces : List String} (h : pieces ≠ []) :
    lineList (lines pieces) = pieces.flatMap lineList := by
  induction pieces with
  | nil => exact absurd rfl h
  | cons piece rest ih =>
    cases rest with
    | nil => simp [lines]
    | cons next rest =>
      have hcut : (lines (piece :: next :: rest)).toList =
          piece.toList ++ '\n' :: (lines (next :: rest)).toList := by
        simp [lines]
      rw [lineList, hcut, List.splitOn_append_cons_self, List.flatMap_cons, ← ih (by simp)]
      rfl

/-- What has no line feed opens the first line of a text before which it
stands. -/
theorem splitOn_append_of_not_mem {opening : List Char} (h : '\n' ∉ opening)
    (rest : List Char) : (opening ++ rest).splitOn '\n' =
      (rest.splitOn '\n').modifyHead (opening ++ ·) := by
  induction opening with
  | nil => exact (congrFun List.modifyHead_id _).symm
  | cons x opening ih =>
    rw [List.mem_cons, not_or] at h
    have hx : (x == '\n') = false := by simpa using Ne.symm h.1
    rw [List.cons_append, List.splitOn_cons_eq_if_modifyHead, hx, ih h.2]
    cases rest.splitOn '\n' <;> rfl

/-! ## Remarks -/

/-- Whether a line opens with a mark, after blanks if there are any. -/
def isRemark (mark : String) (line : List Char) : Bool :=
  mark.toList.isPrefixOf (line.dropWhile Char.isWhitespace)

theorem isRemark_append {line : List Char} (h : isRemark mark line = true) (rest : List Char) :
    isRemark mark (line ++ rest) = true := by
  unfold isRemark at h ⊢
  rw [List.isPrefixOf_iff_prefix] at h ⊢
  rw [List.dropWhile_append]
  split
  case isTrue hblank =>
    rw [List.isEmpty_iff.mp hblank, List.prefix_nil] at h
    rw [h]
    exact List.nil_prefix
  case isFalse => exact h.trans (List.prefix_append ..)

/-- A text opens with the mark of a remark whatever follows. -/
theorem isRemark_toList_append {opening : String} (h : isRemark mark opening.toList = true)
    (rest : String) : isRemark mark (opening ++ rest).toList = true := by
  rw [String.toList_append]
  exact isRemark_append h rest.toList

/-- A text that opens a remark: it has the mark, all on one line. -/
def OpensRemark (mark opening : String) : Prop :=
  '\n' ∉ opening.toList ∧ isRemark mark opening.toList = true

instance (opening : String) : Decidable (OpensRemark mark opening) :=
  inferInstanceAs (Decidable ('\n' ∉ opening.toList ∧ isRemark mark opening.toList = true))

/-- The lines of a text that are no remarks. -/
def codeLines (mark s : String) : List (List Char) := (lineList s).filter (!isRemark mark ·)

/-- The lines of words that are no remarks where only the first is marked
as one. -/
def strayLines (mark words : String) : List (List Char) :=
  (lineList words).tail.filter (!isRemark mark ·)

theorem codeLines_lines {pieces : List String} (h : pieces ≠ []) :
    codeLines mark (lines pieces) = pieces.flatMap (codeLines mark) := by
  rw [codeLines, lineList_lines h, List.filter_flatMap]
  rfl

/-- Of words after the opening of a remark the first line is in it, and the
others are left. -/
theorem codeLines_remark {opening : String} (h : OpensRemark mark opening) (words : String) :
    codeLines mark (opening ++ words) = strayLines mark words := by
  unfold codeLines strayLines lineList
  rw [String.toList_append, splitOn_append_of_not_mem h.1]
  cases hwords : words.toList.splitOn '\n' with
  | nil => exact absurd hwords (List.splitOn_ne_nil _ _)
  | cons first rest =>
    rw [List.modifyHead_cons, List.filter_cons_of_neg (by simp [isRemark_append h.2])]
    rfl

/-! ## Texts with remarks -/

/-- A part of a text: code, or the words of a caller after the opening of a
remark. -/
inductive Chunk where
  | code (text : String)
  | remark (opening words : String)

namespace Chunk

/-- A part as text. -/
def text : Chunk → String
  | code text => text
  | remark opening words => opening ++ words

/-- The code, if it is code. -/
def code? : Chunk → Option String
  | code text => some text
  | remark _ _ => none

/-- The words, if it is a remark. -/
def words? : Chunk → Option String
  | code _ => none
  | remark _ words => some words

/-- A remark opens as one. -/
def Marked (mark : String) : Chunk → Prop
  | code _ => True
  | remark opening _ => OpensRemark mark opening

variable (pieces : List String) (opening : String)

theorem texts_code : (pieces.map code).map text = pieces := by
  simp [Function.comp_def, text]

theorem codes_code : (pieces.map code).filterMap code? = pieces := by
  simp [Function.comp_def, code?]

theorem words_code : (pieces.map code).filterMap words? = [] := by
  simp [Function.comp_def, words?]

theorem texts_remark :
    (pieces.map (remark opening)).map text = pieces.map (opening ++ ·) := by
  simp [Function.comp_def, text]

theorem codes_remark : (pieces.map (remark opening)).filterMap code? = [] := by
  simp [Function.comp_def, code?]

theorem words_remark : (pieces.map (remark opening)).filterMap words? = pieces := by
  simp [Function.comp_def, words?]

theorem marked_code : ∀ c ∈ pieces.map code, c.Marked mark := by
  intro c hc
  obtain ⟨piece, _, rfl⟩ := List.mem_map.mp hc
  trivial

end Chunk

/-- What is left of a text is what is left of its code, and the lines of
words that stray. -/
theorem perm_codeLines {ss : List Chunk} (hmarked : ∀ s ∈ ss, s.Marked mark) :
    ((ss.map Chunk.text).flatMap (codeLines mark)).Perm
      ((ss.filterMap Chunk.code?).flatMap (codeLines mark) ++
        (ss.filterMap Chunk.words?).flatMap (strayLines mark)) := by
  induction ss with
  | nil => exact .refl _
  | cons s rest ih =>
    obtain ⟨hs, hrest⟩ := List.forall_mem_cons.mp hmarked
    simp only [List.map_cons, List.flatMap_cons, List.filterMap_cons]
    cases s with
    | code text =>
      simp only [Chunk.code?, Chunk.words?, Chunk.text, List.flatMap_cons,
        List.append_assoc]
      exact (ih hrest).append_left _
    | remark opening words =>
      simp only [Chunk.code?, Chunk.words?, Chunk.text, List.flatMap_cons]
      rw [codeLines_remark hs]
      exact ((ih hrest).append_left _).trans (List.perm_append_comm_assoc ..)

/-- Where no words stray, only the code is left. -/
theorem codeLines_of_contained {ss : List Chunk} (hmarked : ∀ s ∈ ss, s.Marked mark)
    (h : ∀ w ∈ ss.filterMap Chunk.words?, strayLines mark w = []) :
    (ss.map Chunk.text).flatMap (codeLines mark) =
      (ss.filterMap Chunk.code?).flatMap (codeLines mark) := by
  induction ss with
  | nil => rfl
  | cons s rest ih =>
    obtain ⟨hs, hrest⟩ := List.forall_mem_cons.mp hmarked
    simp only [List.filterMap_cons] at h ⊢
    rw [List.map_cons, List.flatMap_cons]
    cases s with
    | code text => exact congrArg _ (ih hrest h)
    | remark opening words =>
      obtain ⟨hwords, h⟩ := List.forall_mem_cons.mp h
      rw [Chunk.text, codeLines_remark hs, hwords]
      exact ih hrest h

/-- A text that is made of some code, with some words in remarks. -/
def Laid (mark : String) (codes words : List String) (text : String) : Prop :=
  ∃ ss : List Chunk, ss ≠ [] ∧ text = lines (ss.map Chunk.text) ∧
    ss.filterMap Chunk.code? = codes ∧ ss.filterMap Chunk.words? = words ∧
    ∀ s ∈ ss, s.Marked mark

/-- A text that is made of code and words may stand among code and remarks,
which is then all that the whole is made of. -/
theorem Laid.within {codes words : List String} {text : String} (h : Laid mark codes words text)
    {before after : List Chunk} (hb : ∀ c ∈ before, c.Marked mark)
    (ha : ∀ c ∈ after, c.Marked mark) :
    Laid mark (before.filterMap Chunk.code? ++ (codes ++ after.filterMap Chunk.code?))
      (before.filterMap Chunk.words? ++ (words ++ after.filterMap Chunk.words?))
      (lines (before.map Chunk.text ++ text :: after.map Chunk.text)) := by
  obtain ⟨ss, hne, rfl, rfl, rfl, hmarked⟩ := h
  refine ⟨before ++ (ss ++ after), by simp [hne], ?_, by simp, by simp, ?_⟩
  · rw [lines, lines, intercalate_nested _ _ (by simpa using hne)]
    simp [lines]
  · simp only [List.forall_mem_append]
    exact ⟨hb, hmarked, ha⟩

theorem Laid.perm {codes words : List String} {text : String} (h : Laid mark codes words text) :
    (codeLines mark text).Perm
      (codes.flatMap (codeLines mark) ++ words.flatMap (strayLines mark)) := by
  obtain ⟨ss, hne, rfl, rfl, rfl, hmarked⟩ := h
  rw [codeLines_lines (by simpa using hne)]
  exact perm_codeLines hmarked

theorem Laid.codeLines_eq {codes words : List String} {text : String}
    (h : Laid mark codes words text) (hwords : ∀ w ∈ words, strayLines mark w = []) :
    codeLines mark text = codes.flatMap (codeLines mark) := by
  obtain ⟨ss, hne, rfl, rfl, rfl, hmarked⟩ := h
  rw [codeLines_lines (by simpa using hne)]
  exact codeLines_of_contained hmarked hwords

/-- Of two texts of the same code, in one of which no words stray, the same
lines are left exactly where none stray in the other. -/
theorem Laid.codeLines_eq_iff {codes words words' : List String} {text text' : String}
    (h : Laid mark codes words text) (h' : Laid mark codes words' text')
    (hwords' : ∀ w ∈ words', strayLines mark w = []) :
    codeLines mark text = codeLines mark text' ↔ ∀ w ∈ words, strayLines mark w = [] := by
  rw [h'.codeLines_eq hwords']
  refine ⟨fun heq => ?_, h.codeLines_eq⟩
  have hlength := h.perm.length_eq
  rw [heq, List.length_append] at hlength
  refine List.flatMap_eq_nil_iff.mp (List.eq_nil_of_length_eq_zero ?_)
  omega

end Polyschema.Text
