/-
Polyschema.Proofs.Identifier — which names pass the checks of a table.

Names are written into statements as they are, so a name has to be a
word. The pattern that tests it is anchored at the end of the text, and
that anchor also holds before a last line feed.

* `IsWord` — ASCII letters, digits and underscores, no digit first.
* `isIdentifier_iff` — the test passes words, and words with a line feed.
* `names_sound_iff` — so do the checks of the names of a table.
-/
import Polyschema.Emit.Schema
import Polyschema.Proofs.Check
import Polyschema.Proofs.Nullable

namespace Polyschema

open Polyschema.Text

namespace Text

/-- A text of ASCII letters, digits and underscores that does not start
with a digit. -/
structure IsWord (s : String) : Prop where
  nonempty : s ≠ ""
  plain : ∀ c ∈ s.toList, c.isAlpha = true ∨ c.isDigit = true ∨ c = '_'
  first : ∀ c ∈ s.toList.head?, c.isDigit = false

theorem continuesName_iff {c : Char} :
    continuesName c = true ↔ c.isAlpha = true ∨ c.isDigit = true ∨ c = '_' := by
  simp [continuesName, Char.isAlphanum, or_assoc]

theorem isDigit_of_isAlpha {c : Char} (h : c.isAlpha = true) : c.isDigit = false := by
  have hranges : (decide (65 ≤ c.val ∧ c.val ≤ 90) || (97 ≤ c.val && c.val ≤ 122)) = true := h
  simp only [Bool.or_eq_true, Bool.and_eq_true, decide_eq_true_eq,
    UInt32.le_iff_toNat_le] at hranges
  have habove : ¬ c.val ≤ 57 := by
    have hcode : 65 ≤ c.toNat ∨ 97 ≤ c.toNat := hranges.imp And.left And.left
    intro h57
    have hbelow : c.toNat ≤ 57 := UInt32.le_iff_toNat_le.mp h57
    omega
  change (decide (48 ≤ c.val) && decide (c.val ≤ 57)) = false
  rw [decide_eq_false habove, Bool.and_false]

theorem opensName_iff {c : Char} :
    opensName c = true ↔ continuesName c = true ∧ c.isDigit = false := by
  simp only [opensName, continuesName_iff, Bool.or_eq_true, beq_iff_eq]
  constructor
  · rintro (h | rfl)
    · exact ⟨.inl h, isDigit_of_isAlpha h⟩
    · exact ⟨.inr (.inr rfl), by decide⟩
  · rintro ⟨h | h | h, hdigit⟩
    · exact .inl h
    · rw [h] at hdigit
      cases hdigit
    · exact .inr h

/-- A word is a character that opens a name and others that continue it. -/
theorem isWord_iff {s : String} : IsWord s ↔ ∃ c rest, s.toList = c :: rest ∧
    opensName c = true ∧ ∀ d ∈ rest, continuesName d = true := by
  constructor
  · rintro ⟨hne, hplain, hfirst⟩
    obtain ⟨c, rest, hs⟩ := List.exists_cons_of_ne_nil (String.toList_eq_nil_iff.not.mpr hne)
    rw [hs] at hplain hfirst
    obtain ⟨hc, hrest⟩ := List.forall_mem_cons.mp hplain
    exact ⟨c, rest, hs, opensName_iff.mpr ⟨continuesName_iff.mpr hc, hfirst c rfl⟩,
      fun d hd => continuesName_iff.mpr (hrest d hd)⟩
  · rintro ⟨c, rest, hs, hc, hrest⟩
    obtain ⟨hcontinues, hdigit⟩ := opensName_iff.mp hc
    refine ⟨?_, ?_, ?_⟩
    · rintro rfl
      cases hs
    · rw [hs]
      exact List.forall_mem_cons.mpr ⟨continuesName_iff.mp hcontinues,
        fun d hd => continuesName_iff.mp (hrest d hd)⟩
    · rw [hs]
      intro d hd
      cases hd
      exact hdigit

/-- What is left of a text after the characters that continue a name is
nothing or a line feed. -/
theorem rest_iff {rest : List Char} :
    (rest.dropWhile continuesName = [] ∨ rest.dropWhile continuesName = ['\n']) ↔
      ∃ word, (∀ d ∈ word, continuesName d = true) ∧ (rest = word ∨ rest = word ++ ['\n']) := by
  constructor
  · intro h
    refine ⟨rest.takeWhile continuesName, fun d hd => List.mem_takeWhile_imp hd, ?_⟩
    have hsplit := List.takeWhile_append_dropWhile (p := continuesName) (l := rest)
    rcases h with h | h <;> rw [h] at hsplit
    · exact .inl (by simpa using hsplit.symm)
    · exact .inr hsplit.symm
  · rintro ⟨word, hword, rfl | rfl⟩
    · exact .inl (List.dropWhile_eq_nil_iff.mpr hword)
    · right
      rw [List.dropWhile_append_of_pos hword]
      rfl

theorem isIdentifierChars_cons {c : Char} {rest : List Char} :
    isIdentifierChars (c :: rest) = true ↔ opensName c = true ∧
      (rest.dropWhile continuesName = [] ∨ rest.dropWhile continuesName = ['\n']) := by
  rw [isIdentifierChars, Bool.and_eq_true]
  refine and_congr_right fun _ => ?_
  cases rest.dropWhile continuesName <;> simp

/-- The test of a name passes a word, and also a word with a line feed
after it. -/
theorem isIdentifier_iff {s : String} :
    isIdentifier s = true ↔ ∃ word, IsWord word ∧ (s = word ∨ s = word ++ "\n") := by
  unfold isIdentifier
  constructor
  · intro h
    cases hs : s.toList with
    | nil =>
      rw [hs] at h
      cases h
    | cons c rest =>
      rw [hs, isIdentifierChars_cons, rest_iff] at h
      obtain ⟨hc, word, hword, hrest⟩ := h
      refine ⟨String.ofList (c :: word), isWord_iff.mpr ⟨c, word, by simp, hc, hword⟩, ?_⟩
      rw [← String.toList_inj, ← String.toList_inj, hs]
      rcases hrest with rfl | rfl
      · exact .inl (by simp)
      · exact .inr (by simp)
  · rintro ⟨word, hword, hs⟩
    obtain ⟨c, rest, hchars, hc, hrest⟩ := isWord_iff.mp hword
    have htail : ∃ tail, s.toList = c :: tail ∧ (tail = rest ∨ tail = rest ++ ['\n']) := by
      rcases hs with rfl | rfl
      · exact ⟨rest, hchars, .inl rfl⟩
      · exact ⟨rest ++ ['\n'], by simp [hchars], .inr rfl⟩
    obtain ⟨tail, htext, htail⟩ := htail
    rw [htext]
    exact isIdentifierChars_cons.mpr ⟨hc, rest_iff.mpr ⟨rest, hrest, htail⟩⟩

end Text

/-! ## The checks of the names of a table -/

/-- A name is an error where it fails the test; that it is reserved is
none. -/
theorem sound_name {bad reserved : Finding} (hb : bad.level = .error)
    (hr : reserved.level ≠ .error) (name : String) :
    Sound (if !isIdentifier name then [bad] else if isReserved name then [reserved] else []) ↔
      isIdentifier name = true := by
  cases isIdentifier name with
  | false => simp [Sound, hb]
  | true => simp [hr]

theorem sound_columnNames (t : Table) :
    Sound (Check.columnNames t) ↔ ∀ n ∈ t.columnNames, isIdentifier n = true := by
  have hname (n : String) : Sound (Check.columnName t.name n) ↔ isIdentifier n = true :=
    sound_name rfl Level.noConfusion n
  simp only [Sound, Check.columnNames, List.forall_mem_flatMap] at hname ⊢
  simp only [hname]

/-- The checks of the name of a table and of the names of its columns log
no error exactly where each of these names is a word of ASCII letters,
digits and underscores, or such a word with one line feed at its end. -/
theorem names_sound_iff (t : Table) :
    Sound (Check.tableName t) ∧ Sound (Check.columnNames t) ↔
      ∀ n ∈ t.name :: t.columnNames, ∃ word, IsWord word ∧ (n = word ∨ n = word ++ "\n") := by
  have htable : Sound (Check.tableName t) ↔ isIdentifier t.name = true :=
    sound_name rfl Level.noConfusion t.name
  rw [htable, sound_columnNames]
  simp only [← isIdentifier_iff]
  exact (List.forall_mem_cons (p := fun n => isIdentifier n = true)).symm

/-- A table whose name ends in a line feed. -/
def brokenUsers : Table where
  name := "users\n"
  columns := ⟨[("id", .plain (.plain .uuid))], by decide⟩
  primaryKey := ["id"]
  uniques := []
  checks := []
  comment := none

/-- A name that is no word passes, and breaks the first line of the
statement. -/
theorem lineFeed_passes :
    Sound (Check.tableName brokenUsers) ∧ Sound (Check.columnNames brokenUsers) ∧
      ¬ IsWord brokenUsers.name ∧
      (Emit.tableText brokenUsers .sql none).outcome =
        .ok "CREATE TABLE users\n (\n  id UUID NOT NULL,\n  PRIMARY KEY (id)\n);" := by
  have hnone : Check.tableName brokenUsers = [] ∧ Check.columnNames brokenUsers = [] := by decide
  refine ⟨by simp [Sound, hnone.1], by simp [Sound, hnone.2], fun h => ?_, by rfl⟩
  exact absurd (h.plain '\n' (by decide)) (by decide)

end Polyschema
