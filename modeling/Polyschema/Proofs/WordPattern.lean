/-
Polyschema.Proofs.WordPattern — the words of a name as the matches of a
pattern.

The words of a name can be described by a regular expression that is tried
at each place of the name in turn, from left to right, in the way of a
backtracking matcher: what matches is taken out whole, and where nothing
matches a character is passed over. Nothing but what parts the words is
passed over.

* `Pattern` — regular expressions, with a look ahead and word boundaries.
* `wordPattern` — a word: small letters with or without a capital before
  them, capitals up to the next word, or digits.
* `findAll_wordPattern` — its matches are the words.
* `words_account` — every letter and digit of a name stands in one word.
-/
import Polyschema.Proofs.CamelCase
import Polyschema.Proofs.Scan

namespace Polyschema

open Polyschema.Text

namespace Text

/-! ## Patterns -/

/-- A decimal digit of any script. -/
def isDecimal (c : Char) : Bool := (digitValue? c).isSome

/-- A regular expression over classes of characters. -/
inductive Pattern where
  | one (p : Char → Bool)
  /-- One or more, as many as possible first. -/
  | many (p : Char → Bool)
  | seq (a b : Pattern)
  /-- The first, or else the second. -/
  | alt (a b : Pattern)
  /-- Once if possible, or else not at all. -/
  | optional (a : Pattern)
  /-- What could be read here, of which nothing is read. -/
  | ahead (a : Pattern)
  /-- Between a character that continues a word and one that does not. -/
  | boundary

namespace Pattern

/-- The ways to read one or more characters of a class, the longest first:
what is read, and what is left. -/
def runs (p : Char → Bool) : List Char → List (List Char × List Char)
  | [] => []
  | c :: rest =>
    if p c then (runs p rest).map (fun (read, left) => (c :: read, left)) ++ [([c], rest)] else []

/-- The character before a place, after some more were read. -/
def lastOf (before : Option Char) (read : List Char) : Option Char :=
  read.foldl (fun _ c => some c) before

/-- The ways to read a pattern at a place of a text, in the order in which
they are tried. -/
def reads : Pattern → Option Char → List Char → List (List Char × List Char)
  | one p, _, cs => match cs with
    | [] => []
    | c :: rest => if p c then [([c], rest)] else []
  | many p, _, cs => runs p cs
  | seq a b, before, cs => (reads a before cs).flatMap fun (read, left) =>
    (reads b (lastOf before read) left).map fun (more, left) => (read ++ more, left)
  | alt a b, before, cs => reads a before cs ++ reads b before cs
  | optional a, before, cs => reads a before cs ++ [([], cs)]
  | ahead a, before, cs => if (reads a before cs).isEmpty then [] else [([], cs)]
  | boundary, before, cs =>
    if before.any isWord != cs.head?.any isWord then [([], cs)] else []

/-- The match of a pattern at a place. -/
def match? (r : Pattern) (before : Option Char) (cs : List Char) : Option (List Char) :=
  (reads r before cs).head?.map Prod.fst

/-- The matches in a text of a pattern without empty matches, each after the
end of the one before it. `skip` characters belong to the last one. -/
def findAll (r : Pattern) (skip : Nat) (before : Option Char) : List Char → List (List Char)
  | [] => []
  | c :: rest =>
    match skip with
    | skip + 1 => findAll r skip (some c) rest
    | 0 => match r.match? before (c :: rest) with
      | some (d :: more) => (d :: more) :: findAll r more.length (some c) rest
      | _ => findAll r 0 (some c) rest

end Pattern

/-- Small letters, with a capital before them if there is one. -/
def smallWord : Pattern := .seq (.optional (.one Char.isUpper)) (.many Char.isLower)

/-- Where capitals may end: before a capital with a small letter, before a
digit, and at a boundary. -/
def afterCapitals : Pattern :=
  .alt (.seq (.one Char.isUpper) (.one Char.isLower)) (.alt (.one isDecimal) .boundary)

/-- Capitals up to where they may end. -/
def capitals : Pattern := .seq (.many Char.isUpper) (.ahead afterCapitals)

/-- A word of a name: small letters, capitals, a capital, or digits. -/
def wordPattern : Pattern :=
  .alt smallWord (.alt capitals (.alt (.one Char.isUpper) (.many isDecimal)))

/-- A text with a blank for each character that is no ASCII letter or
digit. -/
def cleaned (cs : List Char) : List Char := cs.map fun c => if c.isAlphanum then c else ' '

/-- An ASCII letter or digit, or a blank. -/
def IsClean (c : Char) : Prop := c.isAlphanum = true ∨ c = ' '

theorem isClean_of_mem_cleaned {cs : List Char} : ∀ c ∈ cleaned cs, IsClean c := by
  intro c hc
  obtain ⟨d, -, rfl⟩ := List.mem_map.mp hc
  unfold IsClean
  split
  next h => exact .inl h
  next => exact .inr rfl

/-- What the classes say of a character of a clean text. -/
structure IsOf (c : Char) (digit lower upper : Bool) : Prop where
  isDigit : c.isDigit = digit
  isLower : c.isLower = lower
  isUpper : c.isUpper = upper
  isDecimal : Text.isDecimal c = digit
  isWord : Text.isWord c = (digit || lower || upper)

/-- A character of a clean text is of one class at most. -/
theorem isOf_cases {c : Char} (h : IsClean c) : IsOf c true false false ∨
    IsOf c false true false ∨ IsOf c false false true ∨ IsOf c false false false := by
  rcases h with halnum | rfl
  · have hcode := Emit.toNat_lt_of_isAlphanum halnum
    have hword := isWord_of_isAlphanum halnum hcode
    have hdecimal : isDecimal c = c.isDigit := by
      unfold isDecimal digitValue?
      dsimp only
      rw [if_pos hcode]
      cases c.isDigit <;> rfl
    cases hdigit : c.isDigit with
    | true =>
      have hlower := isLower_eq_false_of_isDigit hdigit
      have hupper : c.isUpper = false := Bool.eq_false_iff.mpr fun hupper => by
        rw [isDigit_of_isAlpha (by simp [Char.isAlpha, hupper])] at hdigit
        cases hdigit
      exact .inl ⟨hdigit, hlower, hupper, hdecimal.trans hdigit, hword⟩
    | false =>
      have halpha := isAlpha_of_not_isDigit halnum hdigit
      cases hlower : c.isLower with
      | true =>
        have hupper := Bool.eq_false_iff.mpr (Char.not_isUpper_of_isLower hlower)
        exact .inr (.inl ⟨hdigit, hlower, hupper, hdecimal.trans hdigit, hword⟩)
      | false =>
        have hupper : c.isUpper = true := by simpa [Char.isAlpha, hlower] using halpha
        exact .inr (.inr (.inl ⟨hdigit, hlower, hupper, hdecimal.trans hdigit, hword⟩))
  · exact .inr (.inr (.inr ⟨rfl, rfl, rfl, by decide, by decide⟩))

theorem IsOf.isAlphanum {c : Char} {digit lower upper : Bool} (h : IsOf c digit lower upper) :
    c.isAlphanum = (upper || lower || digit) := by
  rw [Char.isAlphanum, Char.isAlpha, h.isDigit, h.isLower, h.isUpper]

theorem isDecimal_of_isClean {c : Char} (h : IsClean c) : isDecimal c = c.isDigit := by
  rcases isOf_cases h with h | h | h | h <;> rw [h.isDecimal, h.isDigit]

/-- Cleaning changes no letter and no digit, and nothing into one. -/
theorem class_cleaned (c : Char) :
    let d := if c.isAlphanum then c else ' '
    d.isDigit = c.isDigit ∧ d.isLower = c.isLower ∧ d.isUpper = c.isUpper := by
  dsimp only
  by_cases hc : c.isAlphanum = true
  · rw [if_pos hc]
    exact ⟨rfl, rfl, rfl⟩
  · rw [if_neg hc]
    simp only [Char.isAlphanum, Char.isAlpha, Bool.or_eq_true, not_or, Bool.not_eq_true] at hc
    rw [hc.1.1, hc.1.2, hc.2]
    decide

theorem joinsNext_cleaned (c : Char) (rest : List Char) :
    joinsNext c (cleaned rest) = joinsNext c rest := by
  cases rest with
  | nil => rfl
  | cons d rest =>
    obtain ⟨hdigit, hlower, hupper⟩ := class_cleaned d
    have hnext : (cleaned rest).head?.any Char.isLower = rest.head?.any Char.isLower := by
      cases rest with
      | nil => rfl
      | cons e rest => exact (class_cleaned e).2.1
    show joinsNext c ((if d.isAlphanum then d else ' ') :: cleaned rest) = _
    rw [joinsNext, hdigit, hlower, hupper, hnext, joinsNext]

/-- A text has the same words when it is cleaned. -/
theorem casedWords_cleaned (cs : List Char) : casedWords (cleaned cs) = casedWords cs := by
  induction cs with
  | nil => rfl
  | cons c rest ih =>
    show casedWords ((if c.isAlphanum then c else ' ') :: cleaned rest) = _
    by_cases hc : c.isAlphanum = true
    · rw [if_pos hc, casedWords, casedWords, joinsNext_cleaned, ih]
    · rw [if_neg hc, casedWords, if_neg (by decide), casedWords, if_neg hc, ih]

/-! ## Matches -/

namespace Pattern

variable {p : Char → Bool} {a b : Pattern} {before : Option Char} {c : Char}
  {rest cs : List Char}

theorem runs_cons : runs p (c :: rest) = if p c then
    (runs p rest).map (fun (read, left) => (c :: read, left)) ++ [([c], rest)] else [] := rfl

@[simp] theorem reads_one_nil : reads (.one p) before [] = [] := rfl

@[simp] theorem reads_one_cons :
    reads (.one p) before (c :: rest) = if p c then [([c], rest)] else [] := rfl

@[simp] theorem reads_many : reads (.many p) before cs = runs p cs := rfl

@[simp] theorem reads_seq : reads (.seq a b) before cs =
    (reads a before cs).flatMap fun (read, left) =>
      (reads b (lastOf before read) left).map fun (more, left) => (read ++ more, left) := rfl

@[simp] theorem reads_alt :
    reads (.alt a b) before cs = reads a before cs ++ reads b before cs := rfl

@[simp] theorem reads_optional :
    reads (.optional a) before cs = reads a before cs ++ [([], cs)] := rfl

@[simp] theorem reads_ahead : reads (.ahead a) before cs =
    if (reads a before cs).isEmpty then [] else [([], cs)] := rfl

@[simp] theorem reads_boundary : reads .boundary before cs =
    if before.any isWord != cs.head?.any isWord then [([], cs)] else [] := rfl

/-- The longest run of a class comes first. -/
theorem head?_runs (p : Char → Bool) (cs : List Char) :
    (runs p cs).head?.map Prod.fst = if cs.head?.any p then some (cs.takeWhile p) else none := by
  induction cs with
  | nil => rfl
  | cons c rest ih =>
    rw [runs_cons, List.head?_cons, Option.any_some]
    by_cases hc : p c = true
    · rw [if_pos hc, if_pos hc, List.takeWhile_cons_of_pos hc, List.head?_append, List.head?_map]
      split at ih
      next =>
        obtain ⟨⟨read, left⟩, hhead, hread⟩ := Option.map_eq_some_iff.mp ih
        rw [hhead, ← hread]
        rfl
      next hnone =>
        have hnil : rest.takeWhile p = [] := by
          cases rest with
          | nil => rfl
          | cons d rest => exact List.takeWhile_cons_of_neg hnone
        rw [Option.map_eq_none_iff.mp ih, hnil]
        rfl
    · rw [if_neg hc, if_neg hc]
      rfl

theorem match?_alt : match? (.alt a b) before cs =
    (match? a before cs).or (match? b before cs) := by
  rw [match?, reads_alt, List.head?_append, Option.map_or]
  rfl

theorem match?_many : match? (.many p) before cs =
    if cs.head?.any p then some (cs.takeWhile p) else none := head?_runs p cs

theorem match?_one : match? (.one p) before (c :: rest) =
    if p c then some [c] else none := by
  rw [match?, reads_one_cons]
  split <;> rfl

theorem match?_ahead : match? (.ahead a) before cs =
    if reads a before cs = [] then none else some [] := by
  rw [match?, reads_ahead, if_congr List.isEmpty_iff rfl rfl]
  split <;> rfl

theorem match?_seq : match? (.seq a b) before cs = (reads a before cs).findSome?
    fun (read, left) => (match? b (lastOf before read) left).map (read ++ ·) := by
  rw [match?, reads_seq, List.head?_flatMap, List.map_findSome?]
  refine congrArg (List.findSome? · _) (funext fun ⟨read, left⟩ => ?_)
  show ((List.map _ (reads b (lastOf before read) left)).head?).map Prod.fst = _
  rw [List.head?_map, Option.map_map]
  exact (Option.map_map (read ++ ·) Prod.fst _).symm

end Pattern

theorem match?_smallWord {c : Char} {digit lower upper : Bool} (hc : IsOf c digit lower upper)
    (before : Option Char) (rest : List Char) : smallWord.match? before (c :: rest) =
      if upper && rest.head?.any Char.isLower then some (c :: rest.takeWhile Char.isLower)
      else if lower then some ((c :: rest).takeWhile Char.isLower) else none := by
  have hways : Pattern.reads (.optional (.one Char.isUpper)) before (c :: rest) =
      (if upper then [([c], rest)] else []) ++ [([], c :: rest)] := by
    rw [Pattern.reads_optional, Pattern.reads_one_cons, hc.isUpper]
  rw [smallWord, Pattern.match?_seq, hways]
  simp only [Pattern.match?_many]
  cases upper with
  | false => simp [hc.isLower]
  | true =>
    cases hrest : rest.head?.any Char.isLower <;> cases lower <;> simp [hc.isLower, hrest]

/-! ## Capitals -/

/-- After a capital, capitals may end where the next character does not
belong to its word. -/
theorem match?_afterCapitals {c : Char} (hc : IsOf c false false true) {rest : List Char}
    (hrest : ∀ d ∈ rest, IsClean d) : Pattern.match? (.ahead afterCapitals) (some c) rest =
      if joinsNext c rest then none else some [] := by
  rw [Pattern.match?_ahead]
  refine if_congr ?_ rfl rfl
  cases rest with
  | nil => simp [afterCapitals, hc.isWord, joinsNext]
  | cons d rest =>
    have hpair : Pattern.reads (.seq (.one Char.isUpper) (.one Char.isLower)) (some c)
        (d :: rest) = [] ↔ (d.isUpper && rest.head?.any Char.isLower) = false := by
      cases hd : d.isUpper with
      | false => simp [hd]
      | true =>
        cases rest with
        | nil => simp [hd]
        | cons e rest => cases he : e.isLower <;> simp [hd, he]
    simp only [afterCapitals, Pattern.reads_alt, List.append_eq_nil_iff, hpair]
    rcases isOf_cases (hrest d List.mem_cons_self) with hd | hd | hd | hd <;>
      simp [joinsNext, hc.isDigit, hc.isLower, hc.isWord, hd.isUpper, hd.isLower,
        hd.isDecimal, hd.isWord]

/-- Capitals are read as far as they can go, and then as far as the first of
them. -/
theorem match?_capitals_cons {c : Char} (hc : IsOf c false false true) {rest : List Char}
    (hrest : ∀ d ∈ rest, IsClean d) (before : Option Char) :
    capitals.match? before (c :: rest) = ((capitals.match? (some c) rest).map (c :: ·)).or
      (if joinsNext c rest then none else some [c]) := by
  have hfirst : (Pattern.match? (.ahead afterCapitals) (some c) rest).map ([c] ++ ·) =
      if joinsNext c rest then none else some [c] := by
    rw [match?_afterCapitals hc hrest]
    split <;> rfl
  rw [capitals, Pattern.match?_seq, Pattern.match?_seq, Pattern.reads_many, Pattern.runs_cons,
    if_pos hc.isUpper, List.findSome?_append, List.findSome?_map, ← hfirst]
  rw [List.map_findSome?]
  refine congrArg₂ Option.or (congrArg (List.findSome? · _) (funext fun ⟨read, left⟩ => ?_)) ?_
  · exact (Option.map_map (c :: ·) (read ++ ·) _).symm
  · exact List.findSome?_singleton

theorem match?_capitals_of_not_isUpper {c : Char} (hc : c.isUpper = false) (rest : List Char)
    (before : Option Char) : capitals.match? before (c :: rest) = none := by
  rw [capitals, Pattern.match?_seq, Pattern.reads_many, Pattern.runs_cons, hc]
  rfl

/-! ## The first word -/

/-- The characters of a text up to the first that does not join the next. -/
def firstWord : List Char → List Char
  | [] => []
  | c :: rest => if joinsNext c rest then c :: firstWord rest else [c]

/-- The words of a text are its first word and those of the rest. -/
theorem casedWords_cons {c : Char} (h : c.isAlphanum = true) (rest : List Char) :
    casedWords (c :: rest) = firstWord (c :: rest) ::
      casedWords ((c :: rest).drop (firstWord (c :: rest)).length) := by
  induction rest generalizing c with
  | nil => simp [casedWords, h, firstWord, joinsNext]
  | cons d rest ih =>
    rw [casedWords, if_pos h, firstWord]
    split
    next hjoins =>
      obtain ⟨e, others, heq, hkind⟩ := joinsNext_cases h hjoins
      obtain ⟨rfl, rfl⟩ := List.cons.inj heq
      have hd : d.isAlphanum = true := by
        rcases hkind with hkind | hkind <;> simp [Char.isAlphanum, hkind.2]
      rw [ih hd]
      rfl
    next => rfl

theorem firstWord_eq (c : Char) (rest : List Char) :
    ∃ more, firstWord (c :: rest) = c :: more := by
  rw [firstWord]
  split <;> exact ⟨_, rfl⟩

/-- Where the characters of a class join those of the same class alone, they
are the first word. -/
theorem firstWord_of_class {p : Char → Bool} (hp : ∀ {c : Char} {rest : List Char}, p c = true →
      (∀ d ∈ c :: rest, IsClean d) → joinsNext c rest = rest.head?.any p)
    {c : Char} (hc : p c = true) {rest : List Char} (h : ∀ d ∈ c :: rest, IsClean d) :
    firstWord (c :: rest) = (c :: rest).takeWhile p := by
  induction rest generalizing c with
  | nil => simp [firstWord, joinsNext, hc]
  | cons d rest ih =>
    rw [firstWord, hp hc h, List.takeWhile_cons_of_pos hc]
    cases hd : p d with
    | true =>
      rw [← ih hd (List.forall_mem_cons.mp h).2]
      simp [hd]
    | false => simp [hd]

theorem firstWord_digits {c : Char} (hc : IsOf c true false false) {rest : List Char}
    (h : ∀ d ∈ c :: rest, IsClean d) : firstWord (c :: rest) = (c :: rest).takeWhile isDecimal := by
  refine firstWord_of_class (fun {c rest} hc h => ?_) hc.isDecimal h
  rw [isDecimal_of_isClean (h c List.mem_cons_self)] at hc
  cases rest with
  | nil => rfl
  | cons d rest => simp [joinsNext, hc, isDecimal_of_isClean (h d (by simp))]

theorem firstWord_small {c : Char} (hc : c.isLower = true) {rest : List Char}
    (h : ∀ d ∈ c :: rest, IsClean d) :
    firstWord (c :: rest) = (c :: rest).takeWhile Char.isLower := by
  refine firstWord_of_class (fun {c rest} hc _ => ?_) hc h
  have hdigit : c.isDigit = false := isDigit_of_isAlpha (isAlpha_of_isLower hc)
  cases rest with
  | nil => rfl
  | cons d rest => simp [joinsNext, hc, hdigit]

/-- Capitals before no small letter are the first word. -/
theorem match?_capitals {c : Char} (hc : IsOf c false false true) {rest : List Char}
    (hrest : ∀ d ∈ rest, IsClean d) (before : Option Char) :
    capitals.match? before (c :: rest) =
      if rest.head?.any Char.isLower then none else some (firstWord (c :: rest)) := by
  induction rest generalizing c before with
  | nil =>
    rw [match?_capitals_cons hc hrest]
    rfl
  | cons d rest ih =>
    obtain ⟨hclean, hmore⟩ := List.forall_mem_cons.mp hrest
    rw [match?_capitals_cons hc hrest, firstWord, joinsNext, hc.isDigit, hc.isLower,
      List.head?_cons, Option.any_some]
    cases hupper : d.isUpper with
    | false =>
      rw [match?_capitals_of_not_isUpper hupper]
      cases d.isLower <;> rfl
    | true =>
      have hd : IsOf d false false true := by
        rcases isOf_cases hclean with hd | hd | hd | hd <;> first | exact hd |
          exact absurd (hupper.symm.trans hd.isUpper) (by decide)
      rw [ih hd hmore, hd.isLower]
      cases rest.head?.any Char.isLower <;> rfl

/-- What matches at a letter or a digit is the first word; at a blank
nothing matches. -/
theorem match?_wordPattern {c : Char} {rest : List Char} (h : ∀ d ∈ c :: rest, IsClean d)
    (before : Option Char) : wordPattern.match? before (c :: rest) =
      if c.isAlphanum then some (firstWord (c :: rest)) else none := by
  obtain ⟨hclean, hrest⟩ := List.forall_mem_cons.mp h
  rw [wordPattern, Pattern.match?_alt, Pattern.match?_alt, Pattern.match?_alt, Pattern.match?_many]
  rcases isOf_cases hclean with hc | hc | hc | hc <;> rw [match?_smallWord hc, hc.isAlphanum]
  · rw [match?_capitals_of_not_isUpper hc.isUpper, Pattern.match?_one, hc.isUpper,
      firstWord_digits hc h]
    simp [hc.isDecimal]
  · rw [firstWord_small hc.isLower h]
    rfl
  · rw [match?_capitals hc hrest]
    cases rest with
    | nil => rfl
    | cons d rest =>
      cases hd : d.isLower with
      | true =>
        have hjoins : joinsNext c (d :: rest) = true := by
          simp [joinsNext, hc.isDigit, hc.isLower, hd]
        rw [firstWord, if_pos hjoins, firstWord_small hd hrest]
        simp [hd]
      | false => simp [hd]
  · rw [match?_capitals_of_not_isUpper hc.isUpper, Pattern.match?_one, hc.isUpper]
    simp [hc.isDecimal]

/-- The matches after some characters are the words after them. -/
theorem findAll_clean {cs : List Char} (h : ∀ c ∈ cs, IsClean c) (skip : Nat)
    (before : Option Char) : wordPattern.findAll skip before cs = casedWords (cs.drop skip) := by
  induction cs generalizing skip before with
  | nil => simp [Pattern.findAll, casedWords]
  | cons c rest ih =>
    have hrest := (List.forall_mem_cons.mp h).2
    cases skip with
    | succ skip => exact ih hrest skip (some c)
    | zero =>
      rw [Pattern.findAll, match?_wordPattern h]
      by_cases hc : c.isAlphanum = true
      · obtain ⟨more, hmore⟩ := firstWord_eq c rest
        rw [if_pos hc, List.drop_zero, casedWords_cons hc, hmore]
        exact congrArg _ (ih hrest more.length (some c))
      · rw [if_neg hc, List.drop_zero, casedWords, if_neg hc]
        exact ih hrest 0 (some c)

/-- The matches in a text with blanks for what parts the words are its
words. -/
theorem findAll_wordPattern (cs : List Char) :
    wordPattern.findAll 0 none (cleaned cs) = casedWords cs := by
  rw [findAll_clean isClean_of_mem_cleaned, List.drop_zero, casedWords_cleaned]

example : wordPattern.findAll 0 none (cleaned "HTTPServer_v2ID".toList) =
    ["HTTP".toList, "Server".toList, "v".toList, "2".toList, "ID".toList] := by decide +kernel

/-! ## Letters and digits of a name -/

theorem lowerChars_of_isAlphanum {cs : List Char} (h : ∀ c ∈ cs, c.isAlphanum = true)
    (before : List Char) : lowerChars before cs = cs.map Char.toLower := by
  induction cs generalizing before with
  | nil => rfl
  | cons c rest ih =>
    obtain ⟨hc, hrest⟩ := List.forall_mem_cons.mp h
    have hcode := Emit.toNat_lt_of_isAlphanum hc
    have hsigma : (c.toNat == 0x3a3) = false := beq_false_of_ne (by omega)
    rw [lowerChars, hsigma, lowerChar, if_pos hcode, ih hrest]
    rfl

theorem toList_lower {s : String} (h : ∀ c ∈ s.toList, c.isAlphanum = true) :
    (lower s).toList = s.toList.map Char.toLower := by
  rw [lower, String.toList_ofList, lowerChars_of_isAlphanum h]

/-- The ASCII letters and digits of a name in order, in small letters. -/
def plainChars (name : String) : List Char :=
  (name.toList.filter Char.isAlphanum).map Char.toLower

theorem flatten_words (name : String) : (words name).flatten = plainChars name := by
  rw [words, ← List.map_flatten, flatten_casedWords, plainChars]

theorem map_toLower_pascal (name : String) :
    (pascal name).toList.map Char.toLower = plainChars name := by
  have hback : (words name).map (fun word => (capitalized word).map Char.toLower) = words name := by
    refine (List.map_congr_left fun word hword => ?_).trans (List.map_id _)
    exact IsHump.map_toLower (isPlain_words name word hword) (.inr rfl)
  rw [pascal, String.toList_ofList, List.map_flatten, List.map_map, ← flatten_words]
  exact congrArg List.flatten hback

theorem toList_lower_camel (name : String) : (lower (camel name)).toList = plainChars name :=
  (toList_lower (isAlphanum_camel name)).trans (map_toLower_camel name)

theorem toList_lower_pascal (name : String) : (lower (pascal name)).toList = plainChars name :=
  (toList_lower (isAlphanum_of_map_toLower (map_toLower_pascal name))).trans
    (map_toLower_pascal name)

/-- The words of a name are the matches of the pattern in small letters. They
hold its letters and digits in order, with none lost, repeated or moved, each
word small letters alone or digits alone. So do its camel case and its pascal
case, and names of one case agree in their letters and digits. -/
theorem words_account (name : String) :
    words name =
      (wordPattern.findAll 0 none (cleaned name.toList)).map (·.map Char.toLower) ∧
    (words name).flatten = plainChars name ∧
    (∀ word ∈ words name, word ≠ [] ∧
      ((∀ c ∈ word, c.isLower = true) ∨ ∀ c ∈ word, c.isDigit = true)) ∧
    (lower (camel name)).toList = plainChars name ∧
    (lower (pascal name)).toList = plainChars name ∧
    ∀ other, camel name = camel other ∨ pascal name = pascal other →
      plainChars name = plainChars other := by
  refine ⟨by rw [findAll_wordPattern, words], flatten_words name, fun word hword => ?_,
    toList_lower_camel name, toList_lower_pascal name, ?_⟩
  · obtain ⟨hne, hplain⟩ := isPlain_words name word hword
    exact ⟨hne, hplain.symm⟩
  · rintro other (hcamel | hpascal)
    · rw [← toList_lower_camel, hcamel, toList_lower_camel]
    · rw [← toList_lower_pascal, hpascal, toList_lower_pascal]

theorem words_account_server :
    words "HTTPServer_v2" = ["http".toList, "server".toList, "v".toList, "2".toList] ∧
    camel "HTTPServer_v2" = camel "http server-V2" ∧
    plainChars "HTTPServer_v2" = "httpserverv2".toList ∧
    plainChars "HTTPServer_v2" = plainChars "http server-V2" := by
  have hcamel : camel "HTTPServer_v2" = camel "http server-V2" := by decide +kernel
  have haccount := words_account "HTTPServer_v2"
  exact ⟨by decide +kernel, hcamel, by decide +kernel,
    haccount.2.2.2.2.2 "http server-V2" (.inl hcamel)⟩

end Text

end Polyschema
