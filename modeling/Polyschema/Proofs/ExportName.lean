/-
Polyschema.Proofs.ExportName — the names under which tables are exported in
TypeScript.

* `Exports` — a text exports a table under its name in camel case.
* `exports_tableText` — each table is exported so.
* `exports_tablesText` — the exports of a file, and where they are distinct
  and words.
-/
import Polyschema.Proofs.CamelCase
import Polyschema.Proofs.Linkage

namespace Polyschema

open Polyschema.Text Polyschema.Noted

namespace Emit

/-- The line that exports a table. -/
def exportLine (d : Dialect) (t : Table) : String :=
  match d with
  | .convex => s!"export const {camel t.name} = defineTable(\x7b"
  | _ => s!"export const {camel t.name} = pgTable('{t.name}', \x7b"

/-- The comment lines before a table. -/
def openingComments (t : Table) : List String :=
  (t.comment.filter (· != "")).toList.map fun s => s!"// {s}"

/-- A text that exports a table after its comments. -/
def Exports (d : Dialect) (t : Table) (text : String) : Prop :=
  ∃ rest, text = lines (openingComments t ++ exportLine d t :: rest)

theorem exports_tableText {t : Table} {d : Dialect} (hd : d = .drizzle ∨ d = .convex)
    {options : Option Variant} {text : String} (h : (tableText t d options).outcome = .ok text) :
    Exports d t text := by
  rcases hd with rfl | rfl
  · obtain ⟨key, -, h⟩ := outcome_bind_ok.mp h
    obtain ⟨columns, -, h⟩ := outcome_bind_ok.mp h
    refine ⟨columns.flatten ++ Drizzle.closingLines (Drizzle.extras t key []),
      (Except.ok.inj h).symm.trans ?_⟩
    rw [List.append_assoc]
    rfl
  · obtain ⟨key, -, h⟩ := outcome_bind_ok.mp h
    obtain ⟨members, -, h⟩ := outcome_bind_ok.mp h
    obtain ⟨indexLines, -, h⟩ := outcome_bind_ok.mp h
    obtain ⟨-, -, h⟩ := outcome_bind_ok.mp h
    refine ⟨members.flatten ++ "\x7d)" :: indexLines.map ("  " ++ ·),
      (Except.ok.inj h).symm.trans ?_⟩
    rw [List.append_assoc]
    rfl

/-- A file of tables exports each of them in turn, under its name in camel
case. These are distinct where the words of the tables' names are, numbers
in a row taken as one. Such a name is empty where the table's has no letter
or digit, and a word where the first of these is a letter. -/
theorem exports_tablesText {tables : List Table} {d : Dialect} (hd : d = .drizzle ∨ d = .convex)
    {options : Option Variant} {text : String}
    (h : (tablesText tables d options).outcome = .ok text) :
    (∃ header rendered footer, text = header ++ paragraphs rendered ++ footer ∧
      List.Forall₂ (Exports d) tables rendered) ∧
    ((tables.map fun t => camel t.name).Nodup ↔
      (tables.map fun t => joinNumbers (words t.name)).Nodup) ∧
    ∀ t ∈ tables, (camel t.name ≠ "" ↔ ∃ c ∈ t.name.toList, c.isAlphanum = true) ∧
      (IsWord (camel t.name) ↔
        ∃ c, t.name.toList.find? Char.isAlphanum = some c ∧ c.isAlpha = true) := by
  refine ⟨?_, ?_, fun t _ => ⟨camel_ne_empty_iff, isWord_camel_iff⟩⟩
  · obtain ⟨rendered, hrendered, htext⟩ := outcome_bind_ok.mp h
    have hexports : List.Forall₂ (Exports d) tables rendered :=
      forall₂_of_outcome_each hrendered fun t _ text ht => exports_tableText hd ht
    obtain rfl := Except.ok.inj htext
    rcases hd with rfl | rfl
    · exact ⟨importBlock (Drizzle.imports (paragraphs rendered)) ++ "\n\n", rendered, "",
        String.append_empty.symm, hexports⟩
    · exact ⟨Convex.header ++ "\n\n", rendered, _, String.append_assoc, hexports⟩
  · unfold List.Nodup
    rw [List.pairwise_map, List.pairwise_map]
    simp only [ne_eq, camel_eq_iff]

/-- Tables that are accepted, of which each is exported under a name of its
own. -/
def soundTables : List Table :=
  ["users", "user_tags", "_tag2users"].map fun name => .ofKey name (.plain .uuid)

theorem exports_soundTables :
    ∃ text, (tablesText soundTables .convex none).outcome = .ok text ∧
      (soundTables.map fun t => camel t.name).Nodup ∧
      ∀ t ∈ soundTables, IsWord (camel t.name) := by
  obtain ⟨text, htext⟩ : ∃ text, (tablesText soundTables .convex none).outcome = .ok text :=
    ⟨_, rfl⟩
  obtain ⟨-, hnodup, hword⟩ := exports_tablesText (.inr rfl) htext
  have hwords : (soundTables.map fun t => joinNumbers (words t.name)).Nodup := by decide
  have hletters : ∀ t ∈ soundTables,
      ∃ c, t.name.toList.find? Char.isAlphanum = some c ∧ c.isAlpha = true := by
    simp [soundTables, Table.ofKey]
  exact ⟨text, htext, hnodup.mpr hwords, fun t ht => (hword t ht).2.mpr (hletters t ht)⟩

/-- Tables that are accepted and have names of their own. -/
def lostTables : List Table :=
  ["user_tags", "userTags", "_2fa", "_"].map fun name => .ofKey name (.plain .uuid)

/-- Two of these tables are exported under one name, one under a name that
is no word, and one under none. -/
theorem exports_lostTables :
    (∀ t ∈ lostTables, Sound (Check.tableName t)) ∧ (lostTables.map (·.name)).Nodup ∧
      (tablesText lostTables .drizzle none).Returns ∧
      (tablesText lostTables .convex none).Returns ∧
      lostTables.map (fun t => camel t.name) = ["userTags", "userTags", "2Fa", ""] ∧
      ¬ (lostTables.map fun t => camel t.name).Nodup ∧ ¬ IsWord (camel "_2fa") := by
  have hchecks : ∀ t ∈ lostTables, Check.tableName t = [] := by decide
  refine ⟨fun t ht => ?_, by decide, ⟨_, rfl⟩, ⟨_, rfl⟩, by decide, by decide, fun h => ?_⟩
  · rw [hchecks t ht]
    exact nofun
  · exact absurd (h.first '2' (by decide)) (by decide)

end Emit

end Polyschema
