/-
Polyschema.Proofs.Digits — numbers written in decimal digits and read
again.

* `digitsValue_toDigits` — the digits of a number have its value.
* `takeDigits_padded` — a number padded to a width is read back by as
  many digits.
* `intText` — a whole number is its digits, after a sign if it is
  negative.
-/
import Mathlib.Algebra.Group.Nat.Defs
import Mathlib.Data.List.TakeWhile
import Polyschema.Calendar.Iso
import Polyschema.Number.Read

namespace Polyschema

open Polyschema.Number Polyschema.Calendar

/-! ## The digits of a number -/

/-- The text of a number is its digits. -/
theorem toList_natText (n : Nat) : (toString n).toList = Nat.toDigits 10 n := Nat.toList_repr

/-- All characters of a number are digits. -/
theorem isDigit_toDigits (n : Nat) : ∀ c ∈ Nat.toDigits 10 n, c.isDigit = true :=
  fun _ hc => Nat.isDigit_of_mem_toDigits (by decide) (by decide) hc

/-- The digits of a number have its value. -/
theorem digitsValue_toDigits (n : Nat) : digitsValue (Nat.toDigits 10 n) = n :=
  Nat.ofDigitChars_toDigits (by decide) (by decide)

theorem isDigit_zeros (k : Nat) : ∀ c ∈ List.replicate k '0', c.isDigit = true := by
  intro c hc
  rw [List.eq_of_mem_replicate hc]
  decide

/-- Zeros in front of digits do not count. -/
theorem digitsValue_zeros (k : Nat) (ds : List Char) :
    digitsValue (List.replicate k '0' ++ ds) = digitsValue ds := by
  induction k with
  | zero => rfl
  | succ k ih =>
    rw [List.replicate_succ, List.cons_append]
    exact ih

/-- The text of a whole number: its digits, after a sign if it is
negative. -/
theorem intText (n : Int) :
    (toString n).toList = (if n < 0 then ['-'] else []) ++ Nat.toDigits 10 n.natAbs := by
  cases n with
  | ofNat m =>
    have h : ¬ Int.ofNat m < 0 := by simp
    rw [if_neg h]
    exact Nat.toList_repr
  | negSucc m =>
    rw [if_pos (Int.negSucc_lt_zero m)]
    show ("-" ++ Nat.repr (m + 1)).toList = _
    rw [String.toList_append, Nat.toList_repr]
    rfl

/-! ## Runs of digits -/

/-- What follows a run of digits: nothing, or a character that is no
digit. -/
def EndsDigits (rest : List Char) : Prop := ∀ c ∈ rest.head?, c.isDigit = false

theorem endsDigits_nil : EndsDigits [] := nofun

theorem endsDigits_cons {c : Char} {rest : List Char} (h : c.isDigit = false) :
    EndsDigits (c :: rest) := by
  intro d hd
  cases hd
  exact h

variable {ds rest : List Char}

/-- A run of digits is taken as a whole … -/
theorem takeWhile_digits (hd : ∀ c ∈ ds, c.isDigit = true) (hr : EndsDigits rest) :
    (ds ++ rest).takeWhile Char.isDigit = ds := by
  rw [List.takeWhile_append_of_pos hd]
  cases rest with
  | nil => simp
  | cons c rest => simp [hr c rfl]

/-- … and what follows it is left. -/
theorem dropWhile_digits (hd : ∀ c ∈ ds, c.isDigit = true) (hr : EndsDigits rest) :
    (ds ++ rest).dropWhile Char.isDigit = rest := by
  rw [List.dropWhile_append_of_pos hd]
  cases rest with
  | nil => rfl
  | cons c rest => simp [hr c rfl]

/-! ## A fixed number of digits -/

/-- As many digits as there are, read as a number. -/
theorem takeDigits_digits (hd : ∀ c ∈ ds, c.isDigit = true) (value : Nat)
    (rest : List Char) :
    takeDigits value ds.length (ds ++ rest) =
      some (ds.foldl (fun n c => 10 * n + (c.toNat - 0x30)) value, rest) := by
  induction ds generalizing value with
  | nil => rfl
  | cons c ds ih =>
    obtain ⟨hc, hd⟩ := List.forall_mem_cons.mp hd
    rw [List.length_cons, List.cons_append, takeDigits, if_pos hc, ih hd]
    rfl

/-- A padded number is zeros and its digits. -/
theorem toList_padded (width n : Nat) : (Date.padded width n).toList =
    List.replicate (width - (Nat.toDigits 10 n).length) '0' ++ Nat.toDigits 10 n := by
  unfold Date.padded
  rw [String.toList_append, String.toList_ofList, ← String.length_toList, toList_natText]

theorem isDigit_padded (width n : Nat) : ∀ c ∈ (Date.padded width n).toList,
    c.isDigit = true := by
  rw [toList_padded]
  exact List.forall_mem_append.mpr ⟨isDigit_zeros _, isDigit_toDigits n⟩

/-- A number that fits has the width that it is padded to. -/
theorem length_padded {width n : Nat} (hw : 0 < width) (hn : n < 10 ^ width) :
    (Date.padded width n).toList.length = width := by
  have h : (Nat.toDigits 10 n).length ≤ width :=
    (Nat.length_toDigits_le_iff (by decide) hw).mpr hn
  rw [toList_padded, List.length_append, List.length_replicate]
  omega

/-- A padded number that fits is read back by its width. -/
theorem takeDigits_padded (width : Nat) {n : Nat} (hw : 0 < width) (hn : n < 10 ^ width)
    (rest : List Char) :
    takeDigits 0 width ((Date.padded width n).toList ++ rest) = some (n, rest) := by
  have h := takeDigits_digits (isDigit_padded width n) 0 rest
  rw [length_padded hw hn] at h
  rw [h]
  have hvalue : digitsValue (Date.padded width n).toList = n := by
    rw [toList_padded, digitsValue_zeros, digitsValue_toDigits]
  exact congrArg (fun value => some (value, rest)) hvalue

/-- A padded number begins with a digit. -/
theorem padded_eq_cons (width n : Nat) : ∃ c cs,
    (Date.padded width n).toList = c :: cs ∧ c.isDigit = true := by
  cases h : (Date.padded width n).toList with
  | nil =>
    rw [toList_padded, List.append_eq_nil_iff] at h
    exact absurd h.2 Nat.toDigits_ne_nil
  | cons c cs =>
    refine ⟨c, cs, rfl, isDigit_padded width n c ?_⟩
    rw [h]
    exact List.mem_cons_self

end Polyschema
