/-
Polyschema.Proofs.Scan — which calls are found in a text of pieces.

The functions that a file must import are found in its text, after its
literals, templates and comments were taken out. A piece that is whole —
it closes what it opens, and ends where no name can go on — is scanned
alike wherever it stands.

* `Scans` — the functions that a whole piece calls, and whether it opens
  a template.
* `scans_plain`, `scans_quoted`, `scans_template`, `scans_comment` — the
  pieces of a file.
* `Scans.append`, `scans_join`, `scans_intercalate` — pieces one after
  another.
-/
import Mathlib.Data.List.Forall2
import Mathlib.Data.List.TakeWhile
import Mathlib.Data.Set.Lattice
import Polyschema.Emit.Drizzle

namespace Polyschema.Emit

open Polyschema.Text

/-! ## Where names end -/

/-- A character that parts words and is no point. -/
def parts (c : Char) : Bool := !isWord c && c != '.'

/-- Where a name may begin: after nothing, or after a character that
parts words. -/
def Apart (before : Option Char) : Prop := before.all parts = true

theorem apart_none : Apart none := rfl

theorem Apart.not_joined {before : Option Char} (h : Apart before) :
    (!before.any fun b => b == '.' || isWord b) = true := by
  cases before with
  | none => rfl
  | some b =>
    have hb : parts b = true := h
    simp only [parts, Bool.and_eq_true, Bool.not_eq_true', bne_iff_ne] at hb
    simp [hb.1, hb.2]

/-- Characters that end where no name can go on. -/
def Bordered (u : List Char) : Prop := u.getLast?.all parts = true

instance (u : List Char) : Decidable (Bordered u) := inferInstanceAs (Decidable (_ = true))

theorem Bordered.tail {c : Char} {u : List Char} (h : Bordered (c :: u)) : Bordered u := by
  cases u with
  | nil => rfl
  | cons d u => simpa [Bordered, List.getLast?_cons_cons] using h

theorem bordered_concat {c : Char} (h : parts c = true) (u : List Char) :
    Bordered (u ++ [c]) := by
  rw [Bordered, List.getLast?_concat]
  exact h

theorem bordered_append_right {v : List Char} (hne : v ≠ []) (hv : Bordered v)
    (u : List Char) : Bordered (u ++ v) := by
  rw [Bordered, List.getLast?_append_of_ne_nil u hne]
  exact hv

theorem bordered_append {u v : List Char} (hu : Bordered u) (hv : Bordered v) :
    Bordered (u ++ v) := by
  unfold Bordered at *
  rw [List.getLast?_append]
  cases h : v.getLast? with
  | none => exact hu
  | some c =>
    rw [h] at hv
    exact hv

/-- Letters and digits are among the first 128 characters. -/
theorem toNat_lt_of_isAlphanum {c : Char} (h : c.isAlphanum = true) : c.toNat < 0x80 := by
  have hranges : ((decide (65 ≤ c.val ∧ c.val ≤ 90) || (97 ≤ c.val && c.val ≤ 122)) ||
      (48 ≤ c.val && c.val ≤ 57)) = true := h
  simp only [Bool.or_eq_true, Bool.and_eq_true, decide_eq_true_eq,
    UInt32.le_iff_toNat_le] at hranges
  have hcode : (c.toNat ≤ 90 ∨ c.toNat ≤ 122) ∨ c.toNat ≤ 57 :=
    hranges.imp (Or.imp And.right And.right) And.right
  omega

theorem isWord_of_opensCall {c : Char} (h : opensCall c = true) : isWord c = true := by
  simp only [opensCall, Bool.or_eq_true, beq_iff_eq] at h
  rcases h with h | rfl
  · have halnum : c.isAlphanum = true := by simp [Char.isAlphanum, h]
    exact isWord_of_isAlphanum halnum (toNat_lt_of_isAlphanum halnum)
  · decide

/-! ## Calls -/

/-- Where no name goes on it does not matter what stood before. -/
theorem freeCalls_of_apart {before : Option Char} (h : Apart before) (cs : List Char) :
    freeCalls before cs = freeCalls none cs := by
  cases cs with
  | nil => rfl
  | cons c rest => simp only [freeCalls, h.not_joined, apart_none.not_joined]

/-- The word at the front of a piece ends within the piece. -/
theorem dropWhile_isWord_ne_nil {u : List Char} (hne : u ≠ []) (hb : Bordered u) :
    u.dropWhile isWord ≠ [] := by
  have hlast : isWord (u.getLast hne) = false := by
    rw [Bordered, List.getLast?_eq_some_getLast hne] at hb
    simp only [Option.all_some, parts, Bool.and_eq_true, Bool.not_eq_true'] at hb
    exact hb.1
  rw [ne_eq, List.dropWhile_eq_nil_iff]
  intro h
  rw [h _ (List.getLast_mem hne)] at hlast
  cases hlast

/-- So it is the same word whatever follows the piece. -/
theorem front_word_append {u : List Char} (h : u.dropWhile isWord ≠ []) (rest : List Char) :
    (u ++ rest).takeWhile isWord = u.takeWhile isWord ∧
      (u ++ rest).dropWhile isWord = u.dropWhile isWord ++ rest := by
  have hdrop : (u ++ rest).dropWhile isWord = u.dropWhile isWord ++ rest := by
    rw [List.dropWhile_append, if_neg (by simpa using h)]
  have hwhole : (u ++ rest).takeWhile isWord ++ (u.dropWhile isWord ++ rest) =
      u.takeWhile isWord ++ (u.dropWhile isWord ++ rest) := by
    rw [← hdrop, List.takeWhile_append_dropWhile, hdrop, ← List.append_assoc,
      List.takeWhile_append_dropWhile]
  exact ⟨List.append_cancel_right hwhole, hdrop⟩

/-- Calls in a piece that ends where no name can go on are found in it
alone. -/
theorem freeCalls_append {u : List Char} (hne : u ≠ []) (hb : Bordered u) (before : Option Char)
    (rest : List Char) :
    freeCalls before (u ++ rest) = freeCalls before u ++ freeCalls none rest := by
  induction u generalizing before with
  | nil => exact absurd rfl hne
  | cons c u ih =>
    by_cases hu : u = []
    · subst hu
      have hc : parts c = true := hb
      have hopens : opensCall c = false := by
        refine Bool.eq_false_iff.mpr fun h => ?_
        simp [parts, isWord_of_opensCall h] at hc
      have happart : Apart (some c) := hc
      simp [freeCalls, hopens, freeCalls_of_apart happart]
    · -- the word after the first character ends within the piece
      have hends := dropWhile_isWord_ne_nil hu hb.tail
      obtain ⟨htake, hdrop⟩ := front_word_append hends rest
      have hhead : ((u ++ rest).dropWhile isWord).head? = (u.dropWhile isWord).head? := by
        rw [hdrop, List.head?_append_of_ne_nil _ hends]
      simp only [List.cons_append, freeCalls, hhead, htake, ih hu hb.tail]
      split <;> simp

/-- Without an opening bracket nothing is called. -/
theorem freeCalls_eq_nil {u : List Char} (h : '(' ∉ u) (before : Option Char) :
    freeCalls before u = [] := by
  induction u generalizing before with
  | nil => rfl
  | cons c rest ih =>
    rw [List.mem_cons, not_or] at h
    have hnone : ((rest.dropWhile isWord).head? == some '(') = false := by
      refine Bool.eq_false_iff.mpr fun heq => h.2 ?_
      exact (List.dropWhile_sublist _).subset (List.mem_of_head? (by simpa using heq))
    simp only [freeCalls, hnone, Bool.and_false, ih h.2]
    rfl

/-! ## Templates -/

/-- Whether a text holds the opening of a template. -/
def Opens (u : List Char) : Prop := holds sqlOpening u = true

instance (u : List Char) : Decidable (Opens u) := inferInstanceAs (Decidable (_ = true))

theorem opens_nil : ¬ Opens [] := by simp [Opens, holds, sqlOpening]

/-- The opening of a template does not go on beyond a piece that ends
where no name can go on. -/
theorem prefix_append {u : List Char} (hne : u ≠ []) (hb : Bordered u) (v : List Char) :
    sqlOpening.isPrefixOf (u ++ v) = sqlOpening.isPrefixOf u := by
  have hletter {c : Char} (h : parts c = true) : c ≠ 's' ∧ c ≠ 'q' ∧ c ≠ 'l' := by
    refine ⟨?_, ?_, ?_⟩ <;> rintro rfl <;> revert h <;> decide
  match u, hne, hb with
  | [a], _, hb =>
    have ha := hletter (c := a) hb
    simp [sqlOpening, List.isPrefixOf, ha.1.symm]
  | [a, b], _, hb =>
    have hb := hletter (c := b) hb
    simp [sqlOpening, List.isPrefixOf, hb.2.1.symm]
  | [a, b, c], _, hb =>
    have hc := hletter (c := c) hb
    simp [sqlOpening, List.isPrefixOf, hc.2.2.symm]
  | a :: b :: c :: d :: u, _, _ => simp [sqlOpening, List.isPrefixOf]

/-- Pieces open a template where one of them does. -/
theorem opens_append {u : List Char} (hb : Bordered u) (v : List Char) :
    Opens (u ++ v) ↔ Opens u ∨ Opens v := by
  induction u with
  | nil => simp [opens_nil]
  | cons c u ih =>
    have hopening := prefix_append (List.cons_ne_nil c u) hb v
    rw [List.cons_append] at hopening ⊢
    unfold Opens at ih ⊢
    rw [holds, holds, hopening, Bool.or_eq_true, Bool.or_eq_true, ih hb.tail, or_assoc]

/-- Without a backtick no template is opened. -/
theorem not_opens {u : List Char} (h : backtick ∉ u) : ¬ Opens u := by
  induction u with
  | nil => exact opens_nil
  | cons c rest ih =>
    have hrest : backtick ∉ rest := fun hmem => h (List.mem_cons_of_mem c hmem)
    have hfirst : sqlOpening.isPrefixOf (c :: rest) = false := by
      refine Bool.eq_false_iff.mpr fun hopening => h ?_
      exact (List.isPrefixOf_iff_prefix.mp hopening).subset (by decide)
    unfold Opens at ih ⊢
    rw [holds, hfirst, Bool.false_or]
    exact ih hrest

theorem opens_iff (u : List Char) : Opens u ↔ sqlOpening <:+: u := by
  induction u with
  | nil => simp [opens_nil, sqlOpening]
  | cons c u ih =>
    unfold Opens at ih ⊢
    rw [holds, Bool.or_eq_true, ih, List.infix_cons_iff, List.isPrefixOf_iff_prefix]

/-- A character other than the backtick completes no opening. -/
theorem opens_concat {c : Char} (h : c ≠ backtick) (u : List Char) :
    Opens (u ++ [c]) ↔ Opens u := by
  rw [opens_iff, opens_iff, List.infix_concat_iff, or_iff_right]
  rintro ⟨v, hv⟩
  have hlast : (v ++ ['s', 'q', 'l']) ++ [backtick] = u ++ [c] := by
    rw [← hv]
    simp [sqlOpening]
  exact h (List.append_inj_right' hlast rfl |> List.singleton_inj.mp).symm

/-- How a character is written: as itself, or, if it belongs to no
opening of a template, by characters that do not either. -/
def KeepsOpenings (escape : Char → List Char) : Prop :=
  ∀ c, escape c = [c] ∨ c ∉ sqlOpening ∧ escape c ≠ [] ∧ ∀ d ∈ escape c, d ∉ sqlOpening

theorem prefix_flatMap {escape : Char → List Char} (h : KeepsOpenings escape)
    {part : List Char} (hp : part ⊆ sqlOpening) (cs : List Char) :
    part.isPrefixOf (cs.flatMap escape) = part.isPrefixOf cs := by
  induction part generalizing cs with
  | nil => simp
  | cons a part ih =>
    obtain ⟨ha, hp⟩ := List.cons_subset.mp hp
    cases cs with
    | nil => rfl
    | cons c cs =>
      rcases h c with hc | ⟨hc, hne, hd⟩
      · rw [List.flatMap_cons, hc, List.singleton_append, List.isPrefixOf_cons_cons,
          List.isPrefixOf_cons_cons, ih hp]
      · obtain ⟨d, ds, hds⟩ := List.exists_cons_of_ne_nil hne
        rw [hds, List.forall_mem_cons] at hd
        have hac : (a == c) = false := beq_eq_false_iff_ne.mpr fun heq => hc (heq ▸ ha)
        have had : (a == d) = false := beq_eq_false_iff_ne.mpr fun heq => hd.1 (heq ▸ ha)
        rw [List.flatMap_cons, hds, List.cons_append, List.isPrefixOf_cons_cons,
          List.isPrefixOf_cons_cons, hac, had, Bool.false_and, Bool.false_and]

/-- Escapes neither open a template nor hide that one is opened. -/
theorem opens_flatMap {escape : Char → List Char} (h : KeepsOpenings escape) (cs : List Char) :
    Opens (cs.flatMap escape) ↔ Opens cs := by
  have hskip {ds : List Char} (hd : ∀ d ∈ ds, d ∉ sqlOpening) (v : List Char) :
      Opens (ds ++ v) ↔ Opens v := by
    induction ds with
    | nil => rfl
    | cons d ds ih =>
      obtain ⟨hd, hds⟩ := List.forall_mem_cons.mp hd
      have hs : ('s' == d) = false := beq_eq_false_iff_ne.mpr fun heq =>
        hd (heq ▸ List.mem_cons_self)
      unfold Opens at ih ⊢
      rw [List.cons_append, holds, ← ih hds, sqlOpening, List.isPrefixOf_cons_cons, hs,
        Bool.false_and, Bool.false_or]
  induction cs with
  | nil => rfl
  | cons c cs ih =>
    have hopening := prefix_flatMap h (List.Subset.refl sqlOpening) (c :: cs)
    rcases h c with hc | ⟨hc, _, hd⟩
    · rw [List.flatMap_cons, hc, List.singleton_append] at hopening ⊢
      unfold Opens at ih ⊢
      rw [holds, holds, hopening, Bool.or_eq_true, Bool.or_eq_true]
      exact or_congr_right ih
    · have hown := hskip (List.forall_mem_singleton.mpr hc) cs
      rw [List.flatMap_cons, hskip hd]
      exact ih.trans hown.symm

/-! ## Opaque stretches -/

/-- The mark of a literal. -/
def IsMark (mark : Char) : Prop := mark = quote ∨ mark = doubleQuote

theorem isMark_iff (c : Char) : IsMark c ↔ c.toNat = 0x27 ∨ c.toNat = 0x22 := by
  have hcode (n : Nat) (d : Char) (hd : d = Char.ofNat n) (hn : d.toNat = n) :
      c = d ↔ c.toNat = n := by
    refine ⟨fun h => h ▸ hn, fun h => ?_⟩
    rw [hd, ← h, Char.ofNat_toNat]
  exact or_congr (hcode 0x27 quote rfl rfl) (hcode 0x22 doubleQuote rfl rfl)

/-- Where no template opens and no comment, only a literal is opaque. -/
theorem opaqueLength?_cons {c : Char} {rest : List Char}
    (htemplate : sqlOpening.isPrefixOf (c :: rest) = false) (hslash : c ≠ '/') :
    opaqueLength? (c :: rest) =
      if c.toNat = 0x27 ∨ c.toNat = 0x22 then (quotedLength? c rest).map (· + 1) else none := by
  unfold opaqueLength?
  simp only [htemplate]
  split
  next h => cases h
  next =>
    split
    next heq => exact absurd (List.cons.inj heq).1 hslash
    next heq =>
      obtain ⟨rfl, rfl⟩ := List.cons.inj heq
      rfl
    next heq => cases heq

/-- A stretch that is opaque whatever follows is left out. -/
theorem withoutOpaque_skip {u : List Char} (hne : u ≠ []) {rest : List Char}
    (h : opaqueLength? (u ++ rest) = some u.length) :
    withoutOpaque 0 (u ++ rest) = withoutOpaque 0 rest := by
  have hskip (v : List Char) : withoutOpaque v.length (v ++ rest) = withoutOpaque 0 rest := by
    induction v with
    | nil => rfl
    | cons c v ih =>
      rw [List.cons_append, withoutOpaque, if_pos (by simp), List.length_cons, Nat.add_sub_cancel]
      exact ih
  obtain ⟨c, v, rfl⟩ := List.exists_cons_of_ne_nil hne
  rw [List.cons_append] at h ⊢
  rw [withoutOpaque, if_neg (by decide), h]
  exact hskip v

/-! ### Plain characters -/

/-- A character that opens nothing opaque by itself. -/
def plain (c : Char) : Bool := c != quote && c != doubleQuote && c != '/' && c != backtick

theorem backtick_not_mem_of_plain {u : List Char} (h : u.all plain = true) : backtick ∉ u := by
  intro hmem
  have := List.all_eq_true.mp h _ hmem
  revert this
  decide

/-- Plain characters stay. -/
theorem withoutOpaque_plain {u : List Char} (hp : u.all plain = true) (hb : Bordered u)
    (rest : List Char) : withoutOpaque 0 (u ++ rest) = u ++ withoutOpaque 0 rest := by
  induction u with
  | nil => rfl
  | cons c u ih =>
    have htemplate : sqlOpening.isPrefixOf (c :: (u ++ rest)) = false := by
      rw [← List.cons_append, prefix_append (List.cons_ne_nil c u) hb]
      refine Bool.eq_false_iff.mpr fun hopening => backtick_not_mem_of_plain hp ?_
      exact (List.isPrefixOf_iff_prefix.mp hopening).subset (by decide)
    rw [List.all_cons, Bool.and_eq_true] at hp
    simp only [plain, Bool.and_eq_true, bne_iff_ne] at hp
    obtain ⟨⟨⟨⟨hquote, hdouble⟩, hslash⟩, _⟩, hplain⟩ := hp
    have hmark : ¬ (c.toNat = 0x27 ∨ c.toNat = 0x22) := by
      rw [← isMark_iff]
      exact not_or.mpr ⟨hquote, hdouble⟩
    rw [List.cons_append, withoutOpaque, if_neg (by decide),
      opaqueLength?_cons htemplate hslash, if_neg hmark]
    exact congrArg (c :: ·) (ih hplain hb.tail)

/-! ### Literals -/

/-- What may stand between the marks of a literal: characters other than
the mark, a line feed and a backslash, and pairs that a backslash
opens. -/
inductive Quotable (mark : Char) : List Char → Prop
  | nil : Quotable mark []
  | char {c : Char} {cs : List Char} (hmark : c ≠ mark) (hline : c ≠ '\n')
      (hback : c.toNat ≠ 0x5c) (hcs : Quotable mark cs) : Quotable mark (c :: cs)
  | pair {c d : Char} {cs : List Char} (hmark : c ≠ mark) (hback : c.toNat = 0x5c)
      (hline : d ≠ '\n') (hcs : Quotable mark cs) : Quotable mark (c :: d :: cs)

variable {mark : Char}

theorem Quotable.append {u v : List Char} (hu : Quotable mark u) (hv : Quotable mark v) :
    Quotable mark (u ++ v) := by
  induction hu with
  | nil => exact hv
  | char hmark hline hback _ ih => exact .char hmark hline hback ih
  | pair hmark hback hline _ ih => exact .pair hmark hback hline ih

theorem quotable_flatMap {escape : Char → List Char} (h : ∀ c, Quotable mark (escape c))
    (cs : List Char) : Quotable mark (cs.flatMap escape) := by
  induction cs with
  | nil => exact .nil
  | cons c cs ih => exact (h c).append ih

theorem quotedLength?_of_quotable {u : List Char} (h : Quotable mark u) (rest : List Char) :
    quotedLength? mark (u ++ mark :: rest) = some (u.length + 1) := by
  induction h with
  | nil =>
    rw [List.nil_append, quotedLength?.eq_def]
    exact if_pos rfl
  | @char c cs hmark hline hback _ ih =>
    rw [List.cons_append, quotedLength?.eq_def]
    simp only [if_neg hmark, if_neg hline, if_neg hback, ih, Option.map_some, List.length_cons]
  | @pair c d cs hmark hback hline _ ih =>
    have hfeed : c ≠ '\n' := by
      rintro rfl
      revert hback
      decide
    rw [List.cons_append, List.cons_append, quotedLength?.eq_def]
    simp only [if_neg hmark, if_neg hfeed, if_pos hback, if_neg hline, ih, Option.map_some,
      List.length_cons]

theorem opaqueLength?_quoted (hm : IsMark mark) {u : List Char} (h : Quotable mark u)
    (rest : List Char) :
    opaqueLength? (mark :: (u ++ [mark]) ++ rest) = some (mark :: (u ++ [mark])).length := by
  have htemplate (cs : List Char) : sqlOpening.isPrefixOf (mark :: cs) = false := by
    rcases hm with rfl | rfl <;> rfl
  have hslash : mark ≠ '/' := by rcases hm with rfl | rfl <;> decide
  rw [List.cons_append, opaqueLength?_cons (htemplate _) hslash, if_pos ((isMark_iff mark).mp hm),
    List.append_assoc, List.singleton_append, quotedLength?_of_quotable h]
  simp

/-! ### Templates and comments -/

theorem opaqueLength?_template {u : List Char} (h : backtick ∉ u) (rest : List Char) :
    opaqueLength? (sqlOpening ++ (u ++ [backtick]) ++ rest) =
      some (sqlOpening ++ (u ++ [backtick])).length := by
  have hlength : templateLength? (u ++ backtick :: rest) = some (u.length + 1) := by
    induction u with
    | nil => exact if_pos rfl
    | cons c u ih =>
      rw [List.mem_cons, not_or] at h
      rw [List.cons_append, templateLength?, if_neg (Ne.symm h.1), ih h.2]
      rfl
  have hopening : sqlOpening.isPrefixOf (sqlOpening ++ (u ++ [backtick]) ++ rest) = true := by
    rw [List.isPrefixOf_iff_prefix, List.append_assoc]
    exact List.prefix_append _ _
  have hdrop : (sqlOpening ++ (u ++ [backtick]) ++ rest).drop 4 = u ++ backtick :: rest := by
    simp [sqlOpening]
  unfold opaqueLength?
  simp only [hopening, hdrop, hlength]
  simp [sqlOpening]

/-- A comment goes up to the end of its line. -/
theorem opaqueLength?_comment {u : List Char} (h : '\n' ∉ u) (rest : List Char) :
    opaqueLength? ('/' :: '/' :: u ++ '\n' :: rest) = some ('/' :: '/' :: u).length := by
  have htake : (u ++ '\n' :: rest).takeWhile (· != '\n') = u := by
    rw [List.takeWhile_append_of_pos fun c hc => by
      rw [bne_iff_ne]
      rintro rfl
      exact h hc]
    simp
  unfold opaqueLength?
  simp [sqlOpening, List.isPrefixOf, htake]
  omega

/-! ## Whole pieces -/

/-- A piece that is scanned alike wherever it stands: it ends where no
name can go on and leaves nothing open. It calls these functions, and it
may hold the opening of a template. -/
structure Scans (s : String) (calls : Set String) (template : Prop) : Prop where
  bordered : Bordered s.toList
  opens : Opens s.toList ↔ template
  found {before : Option Char} (happart : Apart before) (rest : List Char) (name : String) :
    name ∈ freeCalls before (withoutOpaque 0 (s.toList ++ rest)) ↔
      name ∈ calls ∨ name ∈ freeCalls none (withoutOpaque 0 rest)

variable {s t : String} {A B : Set String} {p q : Prop}

theorem Scans.congr (h : Scans s A p) (hs : t = s) (hcalls : B = A) (htemplate : q ↔ p) :
    Scans t B q := by
  obtain rfl := hs
  obtain rfl := hcalls
  exact ⟨h.bordered, h.opens.trans htemplate.symm, h.found⟩

/-- What a piece calls is what is found in it. -/
theorem Scans.mem_calledNames (h : Scans s A p) (name : String) :
    name ∈ calledNames s ↔ name ∈ A := by
  have hfound := h.found apart_none [] name
  rw [List.append_nil] at hfound
  exact hfound.trans (or_iff_left List.not_mem_nil)

theorem scans_empty : Scans "" ∅ False where
  bordered := rfl
  opens := iff_of_false opens_nil not_false
  found happart rest name := by
    rw [String.toList_empty, List.nil_append, freeCalls_of_apart happart]
    simp

/-- Pieces stand one after the other. -/
theorem Scans.append (hs : Scans s A p) (ht : Scans t B q) : Scans (s ++ t) (A ∪ B) (p ∨ q) where
  bordered := by
    rw [String.toList_append]
    exact bordered_append hs.bordered ht.bordered
  opens := by
    rw [String.toList_append, opens_append hs.bordered, hs.opens, ht.opens]
  found happart rest name := by
    rw [String.toList_append, List.append_assoc, hs.found happart, ht.found apart_none,
      Set.mem_union, or_assoc]

/-- A piece that is left out. -/
theorem scans_opaque (hne : s.toList ≠ []) (hb : Bordered s.toList)
    (ho : ∀ rest, opaqueLength? (s.toList ++ rest) = some s.toList.length)
    (hp : Opens s.toList ↔ p) : Scans s ∅ p where
  bordered := hb
  opens := hp
  found happart rest name := by
    rw [withoutOpaque_skip hne (ho rest), freeCalls_of_apart happart]
    simp

/-- A piece of plain characters is left as it is. -/
theorem scans_plain (hp : s.toList.all plain = true) (hb : Bordered s.toList) :
    Scans s {name | name ∈ freeCalls none s.toList} False where
  bordered := hb
  opens := iff_of_false (not_opens (backtick_not_mem_of_plain hp)) not_false
  found happart rest name := by
    rw [withoutOpaque_plain hp hb]
    by_cases hne : s.toList = []
    · simp [hne, freeCalls_of_apart happart, freeCalls]
    · rw [freeCalls_append hne hb, List.mem_append, freeCalls_of_apart happart]
      rfl

/-- The opening of a call. -/
theorem scans_call {name : String} (hp : s.toList.all plain = true) (hb : Bordered s.toList)
    (hc : freeCalls none s.toList = [name]) : Scans s {name} False :=
  (scans_plain hp hb).congr rfl (by simp [hc]) Iff.rfl

/-- Fixed characters in which no name stands before a bracket. -/
theorem scans_fixed (hp : s.toList.all plain = true) (hb : Bordered s.toList)
    (hc : freeCalls none s.toList = []) : Scans s ∅ False :=
  (scans_plain hp hb).congr rfl (by simp [hc]) Iff.rfl

/-- A plain character that opens no arguments. -/
def Bland (c : Char) : Prop := plain c = true ∧ c ≠ '('

instance (c : Char) : Decidable (Bland c) := inferInstanceAs (Decidable (_ ∧ _))

/-- A text in which nothing is called and nothing is opaque. -/
def Inert (s : String) : Prop := ∀ c ∈ s.toList, Bland c

instance (s : String) : Decidable (Inert s) := List.decidableBAll _ _

theorem Inert.append (hs : Inert s) (ht : Inert t) : Inert (s ++ t) := by
  intro c hc
  rw [String.toList_append, List.mem_append] at hc
  exact hc.elim (hs c) (ht c)

theorem Inert.scans (h : Inert s) (hb : Bordered s.toList) : Scans s ∅ False :=
  scans_fixed (List.all_eq_true.mpr fun c hc => (h c hc).1) hb
    (freeCalls_eq_nil (fun hc => (h _ hc).2 rfl) none)

theorem Inert.not_opens (h : Inert s) : ¬ Opens s.toList :=
  Emit.not_opens (backtick_not_mem_of_plain (List.all_eq_true.mpr fun c hc => (h c hc).1))

/-- Such a text may end in a name if something follows it. -/
theorem Inert.scans_before (h : Inert s) (ht : Inert t) (hne : t.toList ≠ [])
    (hb : Bordered t.toList) : Scans (s ++ t) ∅ False := by
  refine (h.append ht).scans ?_
  rw [String.toList_append]
  exact bordered_append_right hne hb _

/-- The text of a literal is left out. -/
theorem scans_quoted (hm : IsMark mark) {u : List Char} (h : Quotable mark u) :
    Scans (String.ofList (mark :: (u ++ [mark]))) ∅ (Opens u) := by
  have hparts : parts mark = true := by rcases hm with rfl | rfl <;> decide
  have htick : mark ≠ backtick := by rcases hm with rfl | rfl <;> decide
  have hopen : ¬ Opens [mark] := not_opens (by simpa using htick.symm)
  have hborder : Bordered [mark] := hparts
  refine scans_opaque ?_ ?_ (fun rest => ?_) ?_ <;> rw [String.toList_ofList]
  · exact List.cons_ne_nil _ _
  · exact bordered_concat hparts (mark :: u)
  · exact opaqueLength?_quoted hm h rest
  · rw [← List.singleton_append, opens_append hborder, opens_concat htick, or_iff_right hopen]

/-- An expression in a template is left out, and the template is seen. -/
theorem scans_template {e : String} (h : backtick ∉ e.toList) :
    Scans (Drizzle.sqlTemplate e) ∅ True := by
  have hlist : (Drizzle.sqlTemplate e).toList = sqlOpening ++ (e.toList ++ [backtick]) := by
    show ("sql\x60" ++ e ++ "\x60").toList = _
    simp [sqlOpening, backtick]
  refine scans_opaque ?_ ?_ (fun rest => ?_) ?_ <;> rw [hlist]
  · exact List.cons_ne_nil _ _
  · rw [← List.append_assoc]
    exact bordered_concat (by decide) _
  · exact opaqueLength?_template h rest
  · rw [opens_iff]
    exact iff_of_true (List.prefix_append _ _).isInfix trivial

/-- A comment is left out up to the end of its line. -/
theorem scans_comment (h : '\n' ∉ s.toList) :
    Scans ("// " ++ s ++ "\n") ∅ (Opens s.toList) where
  bordered := by
    rw [String.toList_append]
    exact bordered_concat (by decide) _
  opens := by
    rw [String.toList_append, String.toList_append]
    have hborder : Bordered "// ".toList := by decide
    exact (opens_concat (by decide) _).trans
      ((opens_append hborder _).trans (or_iff_right (not_opens (by decide))))
  found {before} happart rest name := by
    have hlist : ("// " ++ s ++ "\n").toList ++ rest =
        '/' :: '/' :: (' ' :: s.toList) ++ '\n' :: rest := by
      simp
    have hline : '\n' ∉ ' ' :: s.toList := by simpa using h
    have hfeed := (scans_fixed (s := "\n") (by decide) (by decide) (by decide)).found happart
      rest name
    rw [hlist, withoutOpaque_skip (List.cons_ne_nil _ _) (opaqueLength?_comment hline rest)]
    exact hfeed

/-! ### Lists of pieces -/

variable {α : Type} {as : List α} {texts : List String} {calls : α → Set String}
  {template : α → Prop}

/-- Texts made from items, one from each. -/
abbrev ScansEach (calls : α → Set String) (template : α → Prop) : List α → List String → Prop :=
  List.Forall₂ fun a s => Scans s (calls a) (template a)

theorem scans_join (h : ScansEach calls template as texts) :
    Scans (String.join texts) (⋃ a ∈ as, calls a) (∃ a ∈ as, template a) := by
  induction h with
  | nil => exact scans_empty.congr rfl (by simp) (by simp)
  | cons h _ ih => exact (h.append ih).congr String.join_cons (by simp) (by simp)

theorem scans_intercalate {sep : String} (hsep : Scans sep ∅ False)
    (h : ScansEach calls template as texts) :
    Scans (sep.intercalate texts) (⋃ a ∈ as, calls a) (∃ a ∈ as, template a) := by
  induction h with
  | nil => exact scans_empty.congr (by simp) (by simp) (by simp)
  | @cons a s as texts h hrest ih =>
    cases hrest with
    | nil => exact h.congr (by simp) (by simp) (by simp)
    | cons hnext hrest =>
      exact ((h.append hsep).append ih).congr String.intercalate_cons_cons (by simp) (by simp)

/-- The pieces as lines, each with its line feed. -/
def ended (pieces : List String) : String := String.join (pieces.map (· ++ "\n"))

theorem ended_cons (s : String) (pieces : List String) :
    ended (s :: pieces) = s ++ "\n" ++ ended pieces := by
  rw [ended, List.map_cons, String.join_cons, ended]

theorem ended_append (ss ts : List String) : ended (ss ++ ts) = ended ss ++ ended ts := by
  simp [ended, String.join_append]

theorem ended_flatten (pieces : List (List String)) :
    ended pieces.flatten = String.join (pieces.map ended) := by
  induction pieces with
  | nil => rfl
  | cons ss rest ih => rw [List.flatten_cons, ended_append, List.map_cons, String.join_cons, ih]

theorem lines_concat (pieces : List String) (last : String) :
    lines (pieces ++ [last]) = ended pieces ++ last := by
  induction pieces with
  | nil => simp [lines, ended, String.join]
  | cons s pieces ih =>
    have hne : pieces ++ [last] ≠ [] := by simp
    have hcons : lines (s :: (pieces ++ [last])) = s ++ "\n" ++ lines (pieces ++ [last]) :=
      String.intercalate_cons_of_ne_nil hne
    rw [List.cons_append, hcons, ih, ended, ended, List.map_cons, String.join_cons]
    simp only [String.append_assoc]

end Polyschema.Emit
