/-
Polyschema.Proofs.Cut — where texts are cut.

A text is cut at the first place of a separator. That place is behind a
front in which the separator does not stand, unless the separator begins in
the front and ends behind it.

* `infix_append_cons_iff` — a word stands on one side of a character that
  is not in it.
* `cutChars?_eq_none_iff`, `beforeFirst_eq_iff` — a text is not cut where
  the separator does not stand in it.
* `cut_append` — a text is cut behind a front that has not the first
  character of the separator.
* `cut_append_of_not_infix` — or in which the separator does not stand, if
  its first character comes only once.
-/
import Mathlib.Data.List.Infix
import Polyschema.Text.Cut

namespace Polyschema.Text

/-! ## Words within a text -/

section

variable {α : Type} {word front rest : List α} {c : α}

theorem prefix_append_cons_iff (h : c ∉ word) : word <+: front ++ c :: rest ↔ word <+: front := by
  induction front generalizing word with
  | nil =>
    cases word with
    | nil => simp
    | cons d word =>
      have hd : d ≠ c := fun heq => h (heq ▸ List.mem_cons_self)
      simp [List.cons_prefix_cons, hd]
  | cons x front ih =>
    cases word with
    | nil => simp
    | cons d word =>
      have hword : c ∉ word := fun hmem => h (List.mem_cons_of_mem d hmem)
      rw [List.cons_append, List.cons_prefix_cons, List.cons_prefix_cons, ih hword]

theorem infix_cons_of_not_mem (h : c ∉ word) (hne : word ≠ []) :
    word <:+: c :: rest ↔ word <:+: rest := by
  have hhead : ¬ word <+: c :: rest := by
    intro hopens
    obtain ⟨d, tail, rfl⟩ := List.exists_cons_of_ne_nil hne
    exact h ((List.cons_prefix_cons.mp hopens).1 ▸ List.mem_cons_self)
  rw [List.infix_cons_iff]
  simp [hhead]

/-- A word stands on one side of a character that is not in it. -/
theorem infix_append_cons_iff (h : c ∉ word) (hne : word ≠ []) :
    word <:+: front ++ c :: rest ↔ word <:+: front ∨ word <:+: rest := by
  induction front with
  | nil =>
    rw [List.nil_append, infix_cons_of_not_mem h hne]
    simp [hne]
  | cons x front ih =>
    rw [List.cons_append, List.infix_cons_iff, List.infix_cons_iff, ih, ← List.cons_append,
      prefix_append_cons_iff h, or_assoc]

end

/-! ## Texts that are cut or not -/

theorem cutChars?_eq_some {separator cs before after : List Char}
    (h : cutChars? separator cs = some (before, after)) : cs = before ++ separator ++ after := by
  induction cs generalizing before with
  | nil =>
    rw [cutChars?] at h
    split at h
    next hempty =>
      cases h
      simpa using hempty
    next => cases h
  | cons c rest ih =>
    rw [cutChars?] at h
    split at h
    next hopens =>
      cases h
      obtain ⟨after, hafter⟩ := List.isPrefixOf_iff_prefix.mp hopens
      rw [← hafter]
      simp
    next =>
      obtain ⟨⟨front, left⟩, hcut, heq⟩ := Option.map_eq_some_iff.mp h
      cases heq
      rw [ih hcut]
      simp

/-- A text has no place to be cut at a word that does not stand in it. -/
theorem cutChars?_eq_none_iff {separator cs : List Char} :
    cutChars? separator cs = none ↔ ¬ separator <:+: cs := by
  induction cs with
  | nil => cases separator <;> simp [cutChars?]
  | cons c rest ih =>
    rw [cutChars?, List.infix_cons_iff]
    by_cases hopens : separator <+: c :: rest
    · simp [List.isPrefixOf_iff_prefix.mpr hopens, hopens]
    · have hfalse : separator.isPrefixOf (c :: rest) = false :=
        Bool.eq_false_iff.mpr fun h => hopens (List.isPrefixOf_iff_prefix.mp h)
      simp [hfalse, hopens, ih]

/-- A text before the first place of a word is all of it exactly where the
word does not stand in it. -/
theorem beforeFirst_eq_iff {separator s : String} (hne : separator ≠ "") :
    beforeFirst separator s = s ↔ ¬ separator.toList <:+: s.toList := by
  unfold beforeFirst cut cut?
  rw [← cutChars?_eq_none_iff]
  cases hcut : cutChars? separator.toList s.toList with
  | none => simp
  | some halves =>
    obtain ⟨before, after⟩ := halves
    have hsplit := cutChars?_eq_some hcut
    have hshort : before ≠ s.toList := by
      intro heq
      have hlength := congrArg List.length hsplit
      rw [← heq, List.length_append, List.length_append] at hlength
      have hempty : separator.toList = [] := List.length_eq_zero_iff.mp (by omega)
      exact hne (String.toList_eq_nil_iff.mp hempty)
    have hother : String.ofList before ≠ s := by
      intro heq
      exact hshort (by rw [← heq, String.toList_ofList])
    simpa using hother

theorem dropOpening_append (opening rest : String) :
    dropOpening opening (opening ++ rest) = rest := by
  unfold dropOpening
  have hopens : opening.toList.isPrefixOf (opening ++ rest).toList = true := by
    rw [List.isPrefixOf_iff_prefix, String.toList_append]
    exact List.prefix_append _ _
  rw [if_pos hopens, String.toList_append, List.drop_left, String.ofList_toList]

/-! ## Cuts behind a front -/

section

variable {c : Char} {separator front rest cs : List Char}

/-- A text is cut where the first character of the separator stands for
the first time, if the separator is there. -/
theorem cutChars?_append (h : c ∉ front) :
    cutChars? (c :: separator) (front ++ (c :: separator) ++ rest) = some (front, rest) := by
  induction front with
  | nil =>
    have hopens : (c :: separator).isPrefixOf (c :: (separator ++ rest)) = true :=
      List.isPrefixOf_iff_prefix.mpr (List.prefix_append (c :: separator) rest)
    rw [List.nil_append, List.cons_append, cutChars?, if_pos hopens]
    simp
  | cons x front ih =>
    obtain ⟨hx, hfront⟩ := not_or.mp (List.mem_cons.not.mp h)
    rw [List.cons_append, List.cons_append, cutChars?, if_neg (by simp [hx]), ih hfront]
    rfl

theorem cutChars?_eq_none (h : c ∉ cs) : cutChars? (c :: separator) cs = none :=
  cutChars?_eq_none_iff.mpr fun hwithin => h (hwithin.subset List.mem_cons_self)

end

section

variable {c : Char} {separator front s : String} (hs : separator.toList.head? = some c)
include hs

theorem cut?_append (h : c ∉ front.toList) (rest : String) :
    cut? separator (front ++ separator ++ rest) = some (front, rest) := by
  obtain ⟨cs, hcs⟩ := List.head?_eq_some_iff.mp hs
  unfold cut?
  rw [String.toList_append, String.toList_append, hcs, cutChars?_append h]
  simp

theorem cut_append (h : c ∉ front.toList) (rest : String) :
    cut separator (front ++ separator ++ rest) = (front, rest) := by
  rw [cut, cut?_append hs h]
  rfl

theorem cut_of_not_mem (h : c ∉ s.toList) : cut separator s = (s, "") := by
  obtain ⟨cs, hcs⟩ := List.head?_eq_some_iff.mp hs
  rw [cut, cut?, hcs, cutChars?_eq_none h]
  rfl

end

section

variable {c : Char} {tail front rest : List Char}

/-- A separator whose first character comes only once is found behind a
front without it: it cannot begin in the front and end behind it. -/
theorem cutChars?_append_of_not_infix (hc : c ∉ tail) (h : ¬ c :: tail <:+: front) :
    cutChars? (c :: tail) (front ++ (c :: tail) ++ rest) = some (front, rest) := by
  induction front with
  | nil => exact cutChars?_append List.not_mem_nil
  | cons x front ih =>
    obtain ⟨hopens, hfront⟩ := not_or.mp (List.infix_cons_iff.not.mp h)
    have hhere : ¬ c :: tail <+: x :: (front ++ (c :: tail) ++ rest) := by
      intro hp
      obtain ⟨hx, hp⟩ := List.cons_prefix_cons.mp hp
      rw [List.append_assoc, List.cons_append] at hp
      exact hopens (List.cons_prefix_cons.mpr ⟨hx, (prefix_append_cons_iff hc).mp hp⟩)
    rw [List.cons_append, List.cons_append, cutChars?,
      if_neg (by rwa [List.isPrefixOf_iff_prefix]), ih hfront]
    rfl

end

section

variable {c : Char} {tail : List Char} {separator front : String}
  (hs : separator.toList = c :: tail) (hc : c ∉ tail)
include hs hc

theorem cut?_append_of_not_infix (h : ¬ separator.toList <:+: front.toList) (rest : String) :
    cut? separator (front ++ separator ++ rest) = some (front, rest) := by
  rw [hs] at h
  unfold cut?
  rw [String.toList_append, String.toList_append, hs, cutChars?_append_of_not_infix hc h]
  simp

theorem cut_append_of_not_infix (h : ¬ separator.toList <:+: front.toList) (rest : String) :
    cut separator (front ++ separator ++ rest) = (front, rest) := by
  rw [cut, cut?_append_of_not_infix hs hc h]
  rfl

theorem afterFirst_append_of_not_infix (h : ¬ separator.toList <:+: front.toList)
    (rest : String) : afterFirst separator (front ++ separator ++ rest) = rest := by
  rw [afterFirst, cut?_append_of_not_infix hs hc h]

end

end Polyschema.Text
