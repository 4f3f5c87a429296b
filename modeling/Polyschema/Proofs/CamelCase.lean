/-
Polyschema.Proofs.CamelCase — what is left of a name in camel case.

What parts the words of a name is lost on the way, and so is where a number
ends that another one follows. Everything else can be read back: a new word
begins with a capital, and a number where a letter comes before.

* `joinNumbers` — the words of a name with numbers in a row as one.
* `splitBy_humps` — the parts of a camel case can be told in it.
* `camel_eq_iff` — names have one camel case where these words are the
  same.
* `camel_ne_empty_iff`, `isWord_camel_iff` — a camel case is not empty
  where the name has a letter or a digit, and a word where a letter comes
  first.
-/
import Mathlib
import Polyschema.Proofs.Identifier

namespace Polyschema

open Polyschema.Text

namespace Text

/-! ## Letters and digits -/

theorem isLower_eq_false_of_isDigit {c : Char} (h : c.isDigit = true) : c.isLower = false := by
  rw [Bool.eq_false_iff]
  intro hlower
  have halpha : c.isAlpha = true := by simp [Char.isAlpha, hlower]
  rw [isDigit_of_isAlpha halpha] at h
  cases h

theorem toLower_of_isDigit {c : Char} (h : c.isDigit = true) : c.toLower = c := by
  refine Char.toLower_eq_of_not_isUpper fun hupper => ?_
  have halpha : c.isAlpha = true := by simp [Char.isAlpha, hupper]
  rw [isDigit_of_isAlpha halpha] at h
  cases h

theorem toUpper_of_isDigit {c : Char} (h : c.isDigit = true) : c.toUpper = c :=
  Char.toUpper_eq_of_not_isLower (by simp [isLower_eq_false_of_isDigit h])

theorem toLower_of_isLower {c : Char} (h : c.isLower = true) : c.toLower = c :=
  Char.toLower_eq_of_not_isUpper (Char.not_isUpper_of_isLower h)

theorem isDigit_toLower (c : Char) : c.toLower.isDigit = c.isDigit := by
  by_cases halpha : c.isAlpha = true
  · rw [isDigit_of_isAlpha halpha, isDigit_of_isAlpha]
    rwa [Char.isAlpha_toLower_eq_isAlpha]
  · have hupper : ¬ c.isUpper = true := by
      intro hupper
      exact halpha (by simp [Char.isAlpha, hupper])
    rw [Char.toLower_eq_of_not_isUpper hupper]

theorem isAlpha_of_isLower {c : Char} (h : c.isLower = true) : c.isAlpha = true := by
  simp [Char.isAlpha, h]

theorem isAlpha_of_not_isDigit {c : Char} (h : c.isAlphanum = true) (hd : c.isDigit = false) :
    c.isAlpha = true := by
  simpa [Char.isAlphanum, hd] using h

/-! ## Words -/

/-- Whether a word is a number. -/
def isNumber (word : List Char) : Bool := word.all Char.isDigit

/-- A number or small letters. -/
structure IsPlain (word : List Char) : Prop where
  nonempty : word ≠ []
  plain : (∀ c ∈ word, c.isDigit = true) ∨ ∀ c ∈ word, c.isLower = true

theorem head_casedWords {c : Char} (h : c.isAlphanum = true) (rest : List Char) :
    ∃ word others, casedWords (c :: rest) = (c :: word) :: others := by
  rw [casedWords, if_pos h]
  split
  next =>
    cases casedWords rest with
    | nil => exact ⟨[], [], rfl⟩
    | cons word others => exact ⟨word, others, rfl⟩
  next => exact ⟨[], _, rfl⟩

/-- Of two characters in one word both are digits or both are letters. -/
theorem joinsNext_cases {c : Char} {rest : List Char} (hc : c.isAlphanum = true)
    (h : joinsNext c rest = true) : ∃ d others, rest = d :: others ∧
      (c.isDigit = true ∧ d.isDigit = true ∨ c.isAlpha = true ∧ d.isAlpha = true) := by
  cases rest with
  | nil => cases h
  | cons d others =>
    refine ⟨d, others, rfl, ?_⟩
    cases hdigit : c.isDigit with
    | true =>
      simp only [joinsNext, hdigit, if_true] at h
      exact .inl ⟨rfl, h⟩
    | false =>
      have hletter : d.isAlpha = true := by
        simp only [joinsNext, hdigit, Bool.false_eq_true, if_false] at h
        split at h
        next => exact isAlpha_of_isLower h
        next =>
          rcases Bool.or_eq_true_iff.mp h with hlower | hupper
          · exact isAlpha_of_isLower hlower
          · simp [Char.isAlpha, (Bool.and_eq_true_iff.mp hupper).1]
      exact .inr ⟨isAlpha_of_not_isDigit hc hdigit, hletter⟩

/-- The words of a text are numbers, or letters alone. -/
theorem casedWords_shape (cs : List Char) : ∀ word ∈ casedWords cs, word ≠ [] ∧
    ((∀ c ∈ word, c.isDigit = true) ∨ ∀ c ∈ word, c.isAlpha = true) := by
  induction cs with
  | nil => intro word hword; cases hword
  | cons c rest ih =>
    rw [casedWords]
    by_cases hc : c.isAlphanum = true
    · rw [if_pos hc]
      split
      next hjoins =>
        obtain ⟨d, others, rfl, hkind⟩ := joinsNext_cases hc hjoins
        have hd : d.isAlphanum = true := by
          rcases hkind with h | h <;> simp [Char.isAlphanum, h.2]
        obtain ⟨first, more, hwords⟩ := head_casedWords hd others
        rw [hwords] at ih ⊢
        obtain ⟨hfirst, hmore⟩ := List.forall_mem_cons.mp ih
        refine List.forall_mem_cons.mpr ⟨⟨List.cons_ne_nil c _, ?_⟩, hmore⟩
        rcases hkind with ⟨hcd, hdd⟩ | ⟨hca, hda⟩ <;> rcases hfirst.2 with hdigits | hletters
        · exact .inl (List.forall_mem_cons.mpr ⟨hcd, hdigits⟩)
        · rw [isDigit_of_isAlpha (hletters d List.mem_cons_self)] at hdd
          cases hdd
        · have hdigit := hdigits d List.mem_cons_self
          rw [isDigit_of_isAlpha hda] at hdigit
          cases hdigit
        · exact .inr (List.forall_mem_cons.mpr ⟨hca, hletters⟩)
      next =>
        refine List.forall_mem_cons.mpr ⟨⟨List.cons_ne_nil c [], ?_⟩, ih⟩
        cases hdigit : c.isDigit with
        | true => exact .inl (by simpa using hdigit)
        | false => exact .inr (by simpa using isAlpha_of_not_isDigit hc hdigit)
    · rw [if_neg hc]
      exact ih

theorem flatten_attach (c : Char) (ws : List (List Char)) :
    (attach c ws).flatten = c :: ws.flatten := by
  cases ws <;> rfl

/-- No letter and no digit of a text is lost in its words. -/
theorem flatten_casedWords (cs : List Char) :
    (casedWords cs).flatten = cs.filter Char.isAlphanum := by
  induction cs with
  | nil => rfl
  | cons c rest ih =>
    rw [casedWords]
    by_cases hc : c.isAlphanum = true
    · rw [if_pos hc, List.filter_cons_of_pos hc, ← ih]
      split
      next => exact flatten_attach c _
      next => rfl
    · rw [if_neg hc, List.filter_cons_of_neg hc, ih]

theorem isPlain_words (name : String) : ∀ word ∈ words name, IsPlain word := by
  intro word hword
  obtain ⟨cased, hcased, rfl⟩ := List.mem_map.mp hword
  obtain ⟨hne, hshape⟩ := casedWords_shape name.toList cased hcased
  refine ⟨by simpa using hne, hshape.imp ?_ ?_⟩
  · intro hdigits c hc
    obtain ⟨d, hd, rfl⟩ := List.mem_map.mp hc
    rw [toLower_of_isDigit (hdigits d hd)]
    exact hdigits d hd
  · intro halpha c hc
    obtain ⟨d, hd, rfl⟩ := List.mem_map.mp hc
    rw [Char.isLower_toLower_eq_isAlpha]
    exact halpha d hd

/-! ## Numbers in a row -/

/-- A word before others, with which it is one if both are numbers. -/
def putWord (word : List Char) : List (List Char) → List (List Char)
  | [] => [word]
  | next :: rest =>
    if isNumber word && isNumber next then (word ++ next) :: rest else word :: next :: rest

/-- Words with numbers in a row as one. -/
def joinNumbers (ws : List (List Char)) : List (List Char) := ws.foldr putWord []

/-- Numbers and words of small letters, with no two numbers in a row. -/
structure IsTidy (ws : List (List Char)) : Prop where
  plain : ∀ word ∈ ws, IsPlain word
  apart : ws.IsChain fun word next => (isNumber word && isNumber next) = false

theorem isNumber_iff {word : List Char} : isNumber word = true ↔ ∀ c ∈ word, c.isDigit = true :=
  List.all_eq_true

theorem IsPlain.isLower {word : List Char} (h : IsPlain word) (hn : isNumber word = false) :
    ∀ c ∈ word, c.isLower = true := by
  rcases h.plain with hdigits | hlower
  · rw [isNumber_iff.mpr hdigits] at hn
    cases hn
  · exact hlower

theorem isTidy_putWord {word : List Char} {ws : List (List Char)} (hword : IsPlain word)
    (hws : IsTidy ws) : IsTidy (putWord word ws) := by
  cases ws with
  | nil =>
    rw [putWord]
    exact ⟨by simpa using hword, .singleton word⟩
  | cons next rest =>
    obtain ⟨hnext, hrest⟩ := List.forall_mem_cons.mp hws.plain
    rw [putWord]
    split
    next hboth =>
      obtain ⟨hn, hn'⟩ := Bool.and_eq_true_iff.mp hboth
      have hdigits : ∀ c ∈ word ++ next, c.isDigit = true := List.forall_mem_append.mpr
        ⟨isNumber_iff.mp hn, isNumber_iff.mp hn'⟩
      have happart := hws.apart
      refine ⟨List.forall_mem_cons.mpr ⟨⟨by simp [hword.nonempty], .inl hdigits⟩, hrest⟩, ?_⟩
      cases rest with
      | nil => exact .singleton _
      | cons third more =>
        rw [List.isChain_cons_cons, hn', Bool.true_and] at happart
        rw [List.isChain_cons_cons, happart.1, Bool.and_false]
        exact ⟨rfl, happart.2⟩
    next hapart =>
      refine ⟨List.forall_mem_cons.mpr ⟨hword, hws.plain⟩, ?_⟩
      rw [List.isChain_cons_cons]
      exact ⟨by simpa using hapart, hws.apart⟩

theorem isTidy_joinNumbers {ws : List (List Char)} (h : ∀ word ∈ ws, IsPlain word) :
    IsTidy (joinNumbers ws) := by
  induction ws with
  | nil => exact ⟨nofun, .nil⟩
  | cons word rest ih =>
    obtain ⟨hword, hrest⟩ := List.forall_mem_cons.mp h
    exact isTidy_putWord hword (ih hrest)

/-! ## Words read back -/

/-- The parts of a name in camel case: its first word, and the others with
a capital. -/
def humps : List (List Char) → List (List Char)
  | [] => []
  | first :: rest => first :: rest.map capitalized

/-- Whether a character belongs to the part of the one before it. -/
def continuesHump (c d : Char) : Bool := if c.isDigit then d.isDigit else d.isLower

theorem camel_eq (name : String) : camel name = String.ofList (humps (words name)).flatten := by
  unfold camel
  cases words name <;> rfl

theorem capitalized_of_isNumber {word : List Char} (h : isNumber word = true) :
    capitalized word = word := by
  cases word with
  | nil => rfl
  | cons c rest => rw [capitalized, toUpper_of_isDigit (isNumber_iff.mp h c List.mem_cons_self)]

theorem flatten_capitalized_joinNumbers (ws : List (List Char)) :
    ((joinNumbers ws).map capitalized).flatten = (ws.map capitalized).flatten := by
  induction ws with
  | nil => rfl
  | cons word rest ih =>
    show ((putWord word (joinNumbers rest)).map capitalized).flatten = _
    rw [List.map_cons, List.flatten_cons, ← ih]
    cases joinNumbers rest with
    | nil => rfl
    | cons next more =>
      rw [putWord]
      split
      next hboth =>
        obtain ⟨hn, hn'⟩ := Bool.and_eq_true_iff.mp hboth
        have hjoined : isNumber (word ++ next) = true := List.all_append.trans hboth
        simp [capitalized_of_isNumber hn, capitalized_of_isNumber hn',
          capitalized_of_isNumber hjoined]
      next => rfl

/-- Numbers in a row are written as one. -/
theorem flatten_humps_joinNumbers (ws : List (List Char)) :
    (humps (joinNumbers ws)).flatten = (humps ws).flatten := by
  cases ws with
  | nil => rfl
  | cons word rest =>
    have hrest := flatten_capitalized_joinNumbers rest
    show (humps (putWord word (joinNumbers rest))).flatten = word ++ (rest.map capitalized).flatten
    rw [← hrest]
    cases joinNumbers rest with
    | nil => rfl
    | cons next more =>
      rw [putWord]
      split
      next hboth =>
        obtain ⟨-, hn'⟩ := Bool.and_eq_true_iff.mp hboth
        simp [humps, capitalized_of_isNumber hn']
      next => rfl

theorem isChain_letters {word : List Char} (hletters : ∀ c ∈ word, c.isAlpha = true)
    (hrest : ∀ c ∈ word.tail, c.isLower = true) :
    word.IsChain fun c d => continuesHump c d = true := by
  induction word with
  | nil => exact .nil
  | cons c rest ih =>
    cases rest with
    | nil => exact .singleton c
    | cons d rest =>
      obtain ⟨hc, hd⟩ := List.forall_mem_cons.mp hletters
      rw [List.isChain_cons_cons]
      refine ⟨?_, ih hd fun e he => hrest e (List.mem_cons_of_mem d he)⟩
      rw [continuesHump, isDigit_of_isAlpha hc]
      exact hrest d List.mem_cons_self

/-- A word as it stands in a camel case. -/
def IsHump (word hump : List Char) : Prop := hump = word ∨ hump = capitalized word

section

variable {word hump : List Char} (hword : IsPlain word) (hhump : IsHump word hump)
include hword hhump

theorem IsHump.nonempty : hump ≠ [] := by
  obtain ⟨c, rest, rfl⟩ := List.exists_cons_of_ne_nil hword.nonempty
  rcases hhump with rfl | rfl
  · exact List.cons_ne_nil c rest
  · exact List.cons_ne_nil c.toUpper rest

/-- A number is written as it is. -/
theorem IsHump.eq_of_isNumber (hn : isNumber word = true) : hump = word := by
  rcases hhump with rfl | rfl
  · rfl
  · exact capitalized_of_isNumber hn

theorem IsHump.isAlpha (hn : isNumber word = false) : ∀ c ∈ hump, c.isAlpha = true := by
  have hlower := hword.isLower hn
  obtain ⟨c, rest, rfl⟩ := List.exists_cons_of_ne_nil hword.nonempty
  obtain ⟨hc, hrest⟩ := List.forall_mem_cons.mp hlower
  have hletters : ∀ d ∈ rest, d.isAlpha = true := fun d hd => isAlpha_of_isLower (hrest d hd)
  rcases hhump with rfl | rfl
  · exact List.forall_mem_cons.mpr ⟨isAlpha_of_isLower hc, hletters⟩
  · refine List.forall_mem_cons.mpr ⟨?_, hletters⟩
    rw [Char.isAlpha_toUpper_eq_isAlpha]
    exact isAlpha_of_isLower hc

/-- In small letters it is the word again. -/
theorem IsHump.map_toLower : hump.map Char.toLower = word := by
  have hsmall : ∀ c ∈ word, c.toLower = c := by
    intro c hc
    rcases hword.plain with hdigits | hlower
    · exact toLower_of_isDigit (hdigits c hc)
    · exact toLower_of_isLower (hlower c hc)
  have hmap : word.map Char.toLower = word :=
    (List.map_congr_left hsmall).trans (List.map_id'' (fun _ => rfl) word)
  rcases hhump with rfl | rfl
  · exact hmap
  · cases word with
    | nil => rfl
    | cons c rest =>
      rw [capitalized, List.map_cons, Char.toLower_toUpper_eq_toLower, ← List.map_cons]
      exact hmap

/-- It is one part. -/
theorem IsHump.isChain : hump.IsChain fun c d => continuesHump c d = true := by
  cases hn : isNumber word with
  | true =>
    rw [hhump.eq_of_isNumber hword hn]
    refine List.Pairwise.isChain (List.pairwise_of_forall_mem_list fun c hc d hd => ?_)
    rw [continuesHump, isNumber_iff.mp hn c hc, isNumber_iff.mp hn d hd]
    rfl
  | false =>
    have hlower := hword.isLower hn
    have htail : hump.tail = word.tail := by
      rcases hhump with rfl | rfl
      · rfl
      · cases word <;> rfl
    refine isChain_letters (hhump.isAlpha hword hn) fun c hc => ?_
    rw [htail] at hc
    exact hlower c (List.mem_of_mem_tail hc)

/-- The part ends where the next word begins with a capital, and where a
number begins. -/
theorem IsHump.ends {next : List Char} (hnext : IsPlain next)
    (hapart : (isNumber word && isNumber next) = false) :
    ∃ ha hb, continuesHump (hump.getLast ha) ((capitalized next).head hb) = false := by
  obtain ⟨d, more, rfl⟩ := List.exists_cons_of_ne_nil hnext.nonempty
  refine ⟨hhump.nonempty hword, List.cons_ne_nil _ _, ?_⟩
  have hlast := List.getLast_mem (hhump.nonempty hword)
  show continuesHump _ d.toUpper = false
  unfold continuesHump
  cases hn : isNumber (d :: more) with
  | true =>
    -- the word before a number is none
    rw [hn, Bool.and_true] at hapart
    have hdigit := isNumber_iff.mp hn d List.mem_cons_self
    rw [isDigit_of_isAlpha (hhump.isAlpha hword hapart _ hlast), toUpper_of_isDigit hdigit]
    exact isLower_eq_false_of_isDigit hdigit
  | false =>
    have halpha : d.toUpper.isAlpha = true := by
      rw [Char.isAlpha_toUpper_eq_isAlpha]
      exact isAlpha_of_isLower (hnext.isLower hn d List.mem_cons_self)
    rw [isDigit_of_isAlpha halpha, Char.isLower_toUpper_eq_false, ite_self]

end

theorem isHump_humps {ws : List (List Char)} : List.Forall₂ IsHump ws (humps ws) := by
  cases ws with
  | nil => exact .nil
  | cons first rest =>
    refine .cons (.inl rfl) ?_
    rw [List.forall₂_map_right_iff]
    exact List.forall₂_same.mpr fun word _ => .inr rfl

theorem map_toLower_humps {ws : List (List Char)} (h : ∀ word ∈ ws, IsPlain word) :
    (humps ws).map (·.map Char.toLower) = ws := by
  have hwords := (List.forall₂_and_left _ _).mpr ⟨h, isHump_humps⟩
  have hback := map_eq_of_forall₂ hwords (f := id) (g := (·.map Char.toLower))
    fun hhump => hhump.2.map_toLower hhump.1
  rwa [List.map_id] at hback

theorem isChain_humps {word hump : List Char} {rest : List (List Char)} (hhump : IsHump word hump)
    (h : IsTidy (word :: rest)) : (hump :: rest.map capitalized).IsChain fun a b =>
      ∃ ha hb, continuesHump (a.getLast ha) (b.head hb) = false := by
  induction rest generalizing word hump with
  | nil => exact .singleton hump
  | cons next rest ih =>
    obtain ⟨hword, hnext⟩ := List.forall_mem_cons.mp h.plain
    have hapart := List.isChain_cons_cons.mp h.apart
    rw [List.map_cons, List.isChain_cons_cons]
    exact ⟨hhump.ends hword (hnext next List.mem_cons_self) hapart.1,
      ih (.inr rfl) ⟨hnext, hapart.2⟩⟩

/-- The parts of a camel case can be told in it. -/
theorem splitBy_humps {ws : List (List Char)} (h : IsTidy ws) :
    (humps ws).flatten.splitBy continuesHump = humps ws := by
  have hpart : ∀ hump ∈ humps ws, ∃ word, IsPlain word ∧ IsHump word hump := by
    intro hump hmem
    obtain ⟨word, hword, hhump⟩ := exists_of_mem_forall₂ isHump_humps hmem
    exact ⟨word, h.plain word hword, hhump⟩
  refine List.splitBy_flatten ?_ ?_ ?_
  · intro hmem
    obtain ⟨word, hword, hhump⟩ := hpart [] hmem
    exact hhump.nonempty hword rfl
  · intro hump hmem
    obtain ⟨word, hword, hhump⟩ := hpart hump hmem
    exact hhump.isChain hword
  · cases ws with
    | nil => exact .nil
    | cons first rest => exact isChain_humps (.inl rfl) h

/-- The words of a camel case can be told in it. -/
theorem humps_injective {ws ws' : List (List Char)} (h : IsTidy ws) (h' : IsTidy ws')
    (heq : (humps ws).flatten = (humps ws').flatten) : ws = ws' := by
  rw [← map_toLower_humps h.plain, ← map_toLower_humps h'.plain, ← splitBy_humps h, heq,
    splitBy_humps h']

/-- Two names have one camel case where their words are the same, numbers
in a row as one. -/
theorem camel_eq_iff {name name' : String} :
    camel name = camel name' ↔ joinNumbers (words name) = joinNumbers (words name') := by
  rw [camel_eq, camel_eq, String.ofList_inj, ← flatten_humps_joinNumbers (words name),
    ← flatten_humps_joinNumbers (words name')]
  constructor
  · exact humps_injective (isTidy_joinNumbers (isPlain_words name))
      (isTidy_joinNumbers (isPlain_words name'))
  · intro h
    rw [h]

/-! ## Names that can be exported -/

/-- No letter and no digit of a name is lost in its camel case, and none is
put in. -/
theorem map_toLower_camel (name : String) : (camel name).toList.map Char.toLower =
    (name.toList.filter Char.isAlphanum).map Char.toLower := by
  rw [camel_eq, String.toList_ofList, List.map_flatten, map_toLower_humps (isPlain_words name),
    words, ← List.map_flatten, flatten_casedWords]

/-- What reads like letters and digits in small letters has letters and
digits alone. -/
theorem isAlphanum_of_map_toLower {cs ds : List Char}
    (h : cs.map Char.toLower = (ds.filter Char.isAlphanum).map Char.toLower) :
    ∀ c ∈ cs, c.isAlphanum = true := by
  intro c hc
  have hmem : c.toLower ∈ (ds.filter Char.isAlphanum).map Char.toLower := by
    rw [← h]
    exact List.mem_map_of_mem hc
  obtain ⟨d, hd, heq⟩ := List.mem_map.mp hmem
  have hplain : d.isAlphanum = true := (List.mem_filter.mp hd).2
  have hlower (e : Char) : e.toLower.isAlphanum = e.isAlphanum := by
    simp [Char.isAlphanum, isDigit_toLower]
  rw [← hlower, ← heq, hlower, hplain]

/-- A camel case has letters and digits alone. -/
theorem isAlphanum_camel (name : String) : ∀ c ∈ (camel name).toList, c.isAlphanum = true :=
  isAlphanum_of_map_toLower (map_toLower_camel name)

/-- A camel case is empty where the name has no letter and no digit. -/
theorem camel_ne_empty_iff {name : String} :
    camel name ≠ "" ↔ ∃ c ∈ name.toList, c.isAlphanum = true := by
  have hlist : camel name = "" ↔ name.toList.filter Char.isAlphanum = [] := by
    rw [← String.toList_eq_nil_iff, ← List.map_eq_nil_iff (f := Char.toLower), map_toLower_camel,
      List.map_eq_nil_iff]
  rw [ne_eq, hlist, List.filter_eq_nil_iff]
  simp

/-- A camel case is a word where the first letter or digit of the name is a
letter. -/
theorem isWord_camel_iff {name : String} : IsWord (camel name) ↔
    ∃ c, name.toList.find? Char.isAlphanum = some c ∧ c.isAlpha = true := by
  have hhead : (camel name).toList.head?.map Char.toLower =
      (name.toList.find? Char.isAlphanum).map Char.toLower := by
    rw [← List.head?_map, map_toLower_camel, List.head?_map, List.head?_filter]
  have hletter {c d : Char} (h : c.toLower = d.toLower) : c.isAlpha = d.isAlpha := by
    rw [← Char.isAlpha_toLower_eq_isAlpha, h, Char.isAlpha_toLower_eq_isAlpha]
  constructor
  · rintro ⟨hne, -, hfirst⟩
    obtain ⟨d, rest, hchars⟩ := List.exists_cons_of_ne_nil (String.toList_eq_nil_iff.not.mpr hne)
    rw [hchars] at hhead hfirst
    obtain ⟨c, hc, hsame⟩ := Option.map_eq_some_iff.mp hhead.symm
    have hd : d.isAlphanum = true := isAlphanum_camel name d (by simp [hchars])
    refine ⟨c, hc, ?_⟩
    rw [hletter hsame]
    exact isAlpha_of_not_isDigit hd (hfirst d rfl)
  · rintro ⟨c, hc, halpha⟩
    rw [hc] at hhead
    obtain ⟨d, hd, hsame⟩ := Option.map_eq_some_iff.mp hhead
    refine ⟨?_, fun e he => ?_, fun e he => ?_⟩
    · intro hempty
      rw [hempty] at hd
      cases hd
    · have hplain := isAlphanum_camel name e he
      simp only [Char.isAlphanum, Bool.or_eq_true] at hplain
      exact hplain.imp_right .inl
    · obtain rfl : d = e := Option.some.inj (hd.symm.trans he)
      exact isDigit_of_isAlpha ((hletter hsame).trans halpha)

end Text

end Polyschema
