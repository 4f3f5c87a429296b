/-
Polyschema.Proofs.Pieces — where the pieces of a text stand in it.

* `infix_lines` — what stands in a line stands in the text.
* `Carries` — texts that stand one after another in a text, in their
  order and without overlap.
* `Carries.append`, `carries_intercalate` — texts put together carry the
  pieces that they are made of.
* `intercalate_flatten` — texts put together of texts that are put
  together alike.
-/
import Mathlib.Data.List.Basic
import Polyschema.Text.Lines

namespace Polyschema.Text

/-! ## One piece -/

theorem infix_intercalate {α : Type} (sep : List α) {x : List α} {xs : List (List α)}
    (h : x ∈ xs) : x <:+: sep.intercalate xs := by
  induction xs with
  | nil => cases h
  | cons y rest ih =>
    cases rest with
    | nil =>
      obtain rfl := List.mem_singleton.mp h
      exact List.intercalate_singleton.symm ▸ List.infix_rfl
    | cons z rest =>
      rw [List.intercalate_cons_cons]
      rcases List.mem_cons.mp h with rfl | h
      · exact (List.prefix_append x _).isInfix.trans (List.prefix_append _ _).isInfix
      · exact (ih h).trans (List.suffix_append _ _).isInfix

/-- What stands in a line stands in the whole text. -/
theorem infix_lines {line : String} {pieces : List String} {part : List Char}
    (hl : line ∈ pieces) (h : part <:+: line.toList) : part <:+: (lines pieces).toList := by
  refine h.trans ?_
  rw [lines, String.toList_intercalate]
  exact infix_intercalate _ (List.mem_map_of_mem hl)

/-! ## Pieces in order -/

/-- A text in which the pieces stand one after another. -/
def Carries : List String → String → Prop
  | [], _ => True
  | piece :: rest, text => ∃ before after, text = before ++ piece ++ after ∧ Carries rest after

theorem Carries.after {pieces : List String} {text : String} (h : Carries pieces text)
    (before : String) : Carries pieces (before ++ text) := by
  cases pieces with
  | nil => trivial
  | cons piece rest =>
    obtain ⟨start, after, rfl, hrest⟩ := h
    exact ⟨before ++ start, after, by simp [String.append_assoc], hrest⟩

/-- What texts carry, they carry one after the other. -/
theorem Carries.append {pieces pieces' : List String} {text text' : String}
    (h : Carries pieces text) (h' : Carries pieces' text') :
    Carries (pieces ++ pieces') (text ++ text') := by
  induction pieces generalizing text with
  | nil => exact h'.after text
  | cons piece rest ih =>
    obtain ⟨before, after, rfl, hrest⟩ := h
    exact ⟨before, after ++ text', by simp [String.append_assoc], ih hrest⟩

theorem carries_self (piece : String) : Carries [piece] piece :=
  ⟨"", "", by simp, trivial⟩

theorem Carries.before {pieces : List String} {text : String} (h : Carries pieces text)
    (after : String) : Carries pieces (text ++ after) := by
  have hnone : Carries [] after := trivial
  simpa using h.append hnone

/-- Pieces with a separator between them are carried in their order. -/
theorem carries_intercalate (sep : String) (pieces : List String) :
    Carries pieces (sep.intercalate pieces) := by
  induction pieces with
  | nil => trivial
  | cons piece rest ih =>
    cases rest with
    | nil => simpa using carries_self piece
    | cons next rest =>
      rw [String.intercalate_cons_cons]
      exact ((carries_self piece).before sep).append ih

/-- What the first of some texts carries comes before the others. -/
theorem Carries.cons_intercalate {pieces : List String} {text : String}
    (h : Carries pieces text) (sep : String) (rest : List String) :
    Carries (pieces ++ rest) (sep.intercalate (text :: rest)) := by
  cases rest with
  | nil => simpa using h
  | cons next rest =>
    rw [String.intercalate_cons_cons]
    exact (h.before sep).append (carries_intercalate sep (next :: rest))

/-! ## Pieces of pieces -/

theorem intercalate_cons_intercalate (sep : String) {pieces : List String} (h : pieces ≠ [])
    (rest : List String) :
    sep.intercalate (sep.intercalate pieces :: rest) = sep.intercalate (pieces ++ rest) := by
  cases rest with
  | nil => simp
  | cons next rest =>
    rw [String.intercalate_cons_cons, String.intercalate_append_of_ne_nil h (by simp)]

/-- A final line feed opens a last line. -/
theorem lines_ended {pieces : List String} (h : pieces ≠ []) :
    lines pieces ++ "\n" = lines (pieces ++ [""]) := by
  simp [lines, String.intercalate_append_of_ne_nil h]

/-- A piece that is made of pieces stands for them among others. -/
theorem intercalate_nested (sep : String) (before : List String) {pieces : List String}
    (h : pieces ≠ []) (after : List String) :
    sep.intercalate (before ++ sep.intercalate pieces :: after) =
      sep.intercalate (before ++ (pieces ++ after)) := by
  have hinner := intercalate_cons_intercalate sep h after
  by_cases hb : before = []
  · rw [hb]
    exact hinner
  · rw [String.intercalate_append_of_ne_nil hb (by simp), hinner,
      String.intercalate_append_of_ne_nil hb (by simp [h])]

/-- Pieces that are made of pieces with the same separator are their pieces
one after the other. -/
theorem intercalate_flatten (sep : String) {parts : List (List String)}
    (h : ∀ pieces ∈ parts, pieces ≠ []) :
    sep.intercalate (parts.map sep.intercalate) = sep.intercalate parts.flatten := by
  induction parts with
  | nil => rfl
  | cons pieces rest ih =>
    obtain ⟨hne, hrest⟩ := List.forall_mem_cons.mp h
    cases rest with
    | nil => simp
    | cons next rest =>
      have hnext : (next :: rest).flatten ≠ [] := by
        simpa using fun hnil => absurd hnil (hrest next (List.mem_cons_self ..))
      rw [List.map_cons, String.intercalate_cons_of_ne_nil (by simp), ih hrest]
      exact (String.intercalate_append_of_ne_nil hne hnext).symm

end Polyschema.Text
