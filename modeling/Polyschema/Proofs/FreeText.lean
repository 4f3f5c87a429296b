/-
Polyschema.Proofs.FreeText — comments and descriptions in what is emitted.

* `tableChunks`, `tableText_eq` — a table as code and remarks.
* `tableCode`, `tableCode_uncommented` — its code, which has nothing of its
  comments.
* `laid_tableText`, `laid_migrate` — so a table and a migration are made of
  code that has no free text, and of free text in remarks.
* `same_code_iff_no_strays` — so what is left of them without remarks is the
  same for all free text that does not stray.
-/
import Polyschema.Proofs.Remark
import Polyschema.Proofs.Stop
import Polyschema.Proofs.Uncommented

namespace Polyschema

open Polyschema.Text Polyschema.Noted Polyschema.Emit

variable {options : Option Variant} {stamp : Option Stamp}

/-! ## Remarks -/

/-- The mark of a remark in a dialect. -/
def Dialect.mark : Dialect → String
  | .sql => "--"
  | _ => "//"

/-- What opens a remark of a caller. -/
def Dialect.remarkOpening : Dialect → String
  | .sql => "-- "
  | .drizzle => "// "
  | .prisma => "/// "
  | .convex => "// "

/-- A comment is shown where it is not empty. -/
def shownComment (comment : Option String) : List String :=
  (comment.filter (· != "")).toList

/-- The free text of a table: its comment and those of its columns. -/
def Table.freeTexts (t : Table) : List String :=
  shownComment t.comment ++ t.columns.entries.flatMap fun e => shownComment e.2.comment

namespace Emit

/-- A comment as a remark. -/
def remarks (d : Dialect) (indent : String) (comment : Option String) : List Chunk :=
  (shownComment comment).map (.remark (indent ++ d.remarkOpening))

/-! ## The code of a table -/

/-- The line before the columns of a table. -/
def headLine (t : Table) : Dialect → String
  | .sql => s!"CREATE TABLE {t.name} ("
  | .drizzle => s!"export const {Drizzle.exportName t} = pgTable('{t.name}', \x7b"
  | .prisma => s!"model {pascal t.name} \x7b"
  | .convex => s!"export const {Convex.exportName t} = defineTable(\x7b"

/-- The line of a column. -/
def columnLine (name text : String) : Dialect → String
  | .sql => "  " ++ text ++ ","
  | .drizzle => s!"  {name}: {text},"
  | .prisma => s!"  {text}"
  | .convex => s!"  {text},"

/-- The key of a table, which SQL needs declared. -/
def tableKey (t : Table) : Dialect → Emission (List String)
  | .sql => if t.primaryKey.isEmpty then .fail (.defect (.noTableKey t.name))
    else .ofDefect t.resolveKey
  | _ => .ofDefect t.resolveKey

/-- The lines after the columns of a table. -/
def closingOf (t : Table) (key : List String) : Dialect → Emission (List String)
  | .sql => pure (Sql.bodyLines (.primaryKey t.primaryKey ::
      (t.uniques.map .unique ++ t.checks.map .check)) ++ [");"])
  | .drizzle => pure (Drizzle.closingLines (Drizzle.extras t key []))
  | .prisma => do
    let block ← Prisma.blockLines t key []
    pure ("" :: block.map ("  " ++ ·) ++ ["\x7d"])
  | .convex => do
    let indexLines ← Noted.each Convex.indexText []
    (⟨Convex.tableLosses t, .ok ()⟩ : Emission Unit)
    pure ("\x7d)" :: indexLines.map ("  " ++ ·))

/-- A column as code, with its comment as a remark before it. -/
def columnChunks (d : Dialect) (key : List String) (options : Option Variant) (name : String)
    (c : Column) : Emission (List Chunk) := do
  let text ← columnIn d key options name c
  pure (remarks d "  " c.comment ++ [.code (columnLine name text d)])

/-- A table as code and remarks. -/
def tableChunks (t : Table) (d : Dialect) (options : Option Variant) :
    Emission (List Chunk) := do
  let key ← tableKey t d
  let columns ← Noted.each (fun e => columnChunks d key options e.1 e.2) t.columns.entries
  let closing ← closingOf t key d
  pure (remarks d "" t.comment ++
    .code (headLine t d) :: columns.flatten ++ closing.map .code)

/-- The code of a table. -/
def tableCode (t : Table) (d : Dialect) (options : Option Variant) :
    Emission (List String) := do
  let key ← tableKey t d
  let columns ← Noted.each (fun e => do
    pure (columnLine e.1 (← columnIn d key options e.1 e.2) d)) t.columns.entries
  let closing ← closingOf t key d
  pure (headLine t d :: columns ++ closing)

/-- The code of a table has nothing of its comments. -/
theorem tableCode_uncommented (t : Table) {d : Dialect}
    (h : d = .sql → Variant.ofOptions options = .sqlite) :
    tableCode t.uncommented d options = tableCode t d options := by
  have hcolumns : t.uncommented.columns.entries =
      t.columns.entries.map fun e => (e.1, e.2.uncommented) := rfl
  have hkey : tableKey t.uncommented d = tableKey t d := by
    cases d <;> simp only [tableKey, t.resolveKey_uncommented]
    rfl
  have hclosing (key : List String) : closingOf t.uncommented key d = closingOf t key d := by
    cases d <;> rfl
  have hhead : headLine t.uncommented d = headLine t d := by cases d <;> rfl
  unfold tableCode
  simp only [hcolumns, each_map, hkey, hclosing, hhead, columnIn_uncommented h]

theorem codes_columnChunks (d : Dialect) (key : List String) (e : String × Column) :
    List.filterMap Chunk.code? <$> columnChunks d key options e.1 e.2 =
      (fun line => [line]) <$> (do
        pure (columnLine e.1 (← columnIn d key options e.1 e.2) d) : Emission String) := by
  unfold columnChunks
  simp only [map_eq_pure_bind, bind_assoc, pure_bind, List.filterMap_append, remarks,
    Chunk.codes_remark]
  rfl

/-- The code of a table is what its remarks leave. -/
theorem tableCode_eq (t : Table) (d : Dialect) :
    tableCode t d options = List.filterMap Chunk.code? <$> tableChunks t d options := by
  have hcolumns (key : List String) : (each (fun e => do
      pure (columnLine e.1 (← columnIn d key options e.1 e.2) d)) t.columns.entries :
        Emission (List String)) =
      (fun columns => (columns.map (List.filterMap Chunk.code?)).flatten) <$>
        each (fun e => columnChunks d key options e.1 e.2) t.columns.entries := by
    have hsingle : (fun lines : List String => (lines.map fun line => [line]).flatten) = id :=
      funext fun lines => by rw [← List.flatMap_def, List.flatMap_singleton']; rfl
    calc _ = List.flatten <$> List.map (fun line => [line]) <$> each (fun e => do
            pure (columnLine e.1 (← columnIn d key options e.1 e.2) d)) t.columns.entries := by
          rw [← comp_map]
          exact ((congrArg (· <$> _) hsingle).trans (id_map _)).symm
      _ = List.flatten <$> List.map (List.filterMap Chunk.code?) <$>
            each (fun e => columnChunks d key options e.1 e.2) t.columns.entries := by
          rw [← each_map_results, ← each_map_results]
          simp only [codes_columnChunks]
      _ = _ := (comp_map _ _ _).symm
  unfold tableCode tableChunks
  simp only [hcolumns]
  simp only [map_eq_pure_bind, bind_assoc, pure_bind, List.filterMap_append, remarks,
    Chunk.codes_remark, List.nil_append, List.filterMap_cons, Chunk.code?, Chunk.codes_code,
    List.filterMap_flatten]

/-! ## Tables as text -/

theorem texts_columnChunks (d : Dialect) (key : List String) (e : String × Column) :
    List.map Chunk.text <$> columnChunks d key options e.1 e.2 = (do
      let text ← columnIn d key options e.1 e.2
      pure ((shownComment e.2.comment).map ("  " ++ d.remarkOpening ++ ·) ++
        [columnLine e.1 text d])) := by
  unfold columnChunks
  simp only [map_eq_pure_bind, bind_assoc, pure_bind, remarks, List.map_append,
    Chunk.texts_remark]
  rfl

/-- A table is its code and remarks as lines. -/
theorem texts_tableChunks (t : Table) (d : Dialect) :
    (fun cs => lines (cs.map Chunk.text)) <$> tableChunks t d options = (do
      let key ← tableKey t d
      let columns ← Noted.each (fun e => do
        let text ← columnIn d key options e.1 e.2
        pure ((shownComment e.2.comment).map ("  " ++ d.remarkOpening ++ ·) ++
          [columnLine e.1 text d])) t.columns.entries
      let closing ← closingOf t key d
      pure (lines ((shownComment t.comment).map ("" ++ d.remarkOpening ++ ·) ++
        headLine t d :: columns.flatten ++ closing))) := by
  unfold tableChunks
  simp only [← texts_columnChunks, each_map_results]
  simp only [map_eq_pure_bind, bind_assoc, pure_bind, remarks, List.map_append, List.map_cons,
    List.map_flatten, Chunk.texts_remark, Chunk.texts_code, Chunk.text]

/-- The lines of an entry that is not the last. -/
def entryLines (entry : Sql.Entry) : List String :=
  entry.comments.map ("  " ++ ·) ++ ["  " ++ entry.text ++ ","]

theorem bodyLines_append (entries : List Sql.Entry) {rest : List Sql.Entry} (h : rest ≠ []) :
    Sql.bodyLines (entries ++ rest) =
      (entries.map entryLines).flatten ++ Sql.bodyLines rest := by
  induction entries with
  | nil => rfl
  | cons entry entries ih =>
    have hne : entries ++ rest ≠ [] := by simp [h]
    obtain ⟨next, others, hnext⟩ := List.exists_cons_of_ne_nil hne
    rw [List.cons_append, hnext, Sql.bodyLines, ← hnext, ih, List.map_cons, List.flatten_cons]
    · simp [entryLines]
    · nofun

theorem shownComment_sqlite (h : Variant.ofOptions options = .sqlite) (comment : Option String) :
    (Sql.givenWhen (Variant.ofOptions options == .sqlite) comment).toList =
      shownComment comment := by
  rw [h]
  cases comment with
  | none => rfl
  | some s =>
    by_cases hs : s = ""
    · rw [hs]; rfl
    · simp [Sql.givenWhen, isGiven, shownComment, hs, Option.filter]

/-- A column in SQLite is its entry with the comment before it. -/
theorem entryLines_columnEntry (h : Variant.ofOptions options = .sqlite) (key : List String)
    (e : String × Column) : entryLines <$> Sql.columnEntry options e.1 e.2 = (do
      let text ← columnIn .sql key options e.1 e.2
      pure ((shownComment e.2.comment).map ("  " ++ Dialect.sql.remarkOpening ++ ·) ++
        [columnLine e.1 text .sql])) := by
  unfold Sql.columnEntry
  simp only [map_eq_pure_bind, bind_assoc, pure_bind]
  refine bind_congr fun text => congrArg pure ?_
  rw [← shownComment_sqlite h]
  cases Sql.givenWhen (Variant.ofOptions options == .sqlite) e.2.comment <;> rfl

theorem createTable_sqlite (h : Variant.ofOptions options = .sqlite) (t : Table) :
    Sql.CreateTable.text <$> Sql.createTable t options =
      (fun cs => lines (cs.map Chunk.text)) <$> tableChunks t .sql options := by
  rw [texts_tableChunks]
  by_cases hk : t.primaryKey = []
  · have hkey : tableKey t .sql = .fail (.defect (.noTableKey t.name)) := if_pos (by simp [hk])
    rw [createTable_of_undeclared hk, hkey]
    rfl
  · have hkey : tableKey t .sql = .ofDefect t.resolveKey := if_neg (by simpa using hk)
    rw [createTable_of_declared hk, hkey]
    simp only [← entryLines_columnEntry h, each_map_results]
    simp only [map_eq_pure_bind, bind_assoc, pure_bind, closingOf, Sql.CreateTable.text]
    refine bind_congr fun key => bind_congr fun entries => congrArg pure ?_
    rw [bodyLines_append _ (by simp), shownComment_sqlite h, h]
    simp only [List.append_assoc, List.cons_append]
    rfl

/-- A table is its code and remarks as lines. -/
theorem tableText_eq (t : Table) {d : Dialect}
    (h : d = .sql → Variant.ofOptions options = .sqlite) :
    tableText t d options =
      (fun cs => lines (cs.map Chunk.text)) <$> tableChunks t d options := by
  cases d with
  | sql => exact (map_eq_pure_bind ..).symm.trans (createTable_sqlite (h rfl) t)
  | drizzle => exact (texts_tableChunks t .drizzle).symm
  | prisma =>
    rw [texts_tableChunks]
    simp only [closingOf, bind_assoc, pure_bind, ← List.append_assoc]
    rfl
  | convex =>
    rw [texts_tableChunks]
    simp only [closingOf, bind_assoc, pure_bind]
    rfl

/-! ## What tables are made of -/

theorem marked_remarks (d : Dialect) {indent : String} (hindent : indent = "" ∨ indent = "  ")
    (comment : Option String) : ∀ c ∈ remarks d indent comment, c.Marked d.mark := by
  intro c hc
  obtain ⟨words, _, rfl⟩ := List.mem_map.mp hc
  show OpensRemark d.mark (indent ++ d.remarkOpening)
  rcases hindent with rfl | rfl <;> cases d <;> decide

theorem columnChunks_ok {d : Dialect} {key : List String} {e : String × Column}
    {cs : List Chunk} (h : (columnChunks d key options e.1 e.2).outcome = .ok cs) :
    cs.filterMap Chunk.words? = shownComment e.2.comment ∧ ∀ c ∈ cs, c.Marked d.mark := by
  obtain ⟨text, _, h⟩ := outcome_bind_ok.mp h
  cases h
  refine ⟨?_, ?_⟩
  · simp only [remarks, List.filterMap_append, Chunk.words_remark]
    exact List.append_nil _
  · simp only [List.forall_mem_append, List.forall_mem_singleton]
    exact ⟨marked_remarks d (.inr rfl) _, trivial⟩

/-- The remarks of a table have its free text. -/
theorem tableChunks_ok {t : Table} {d : Dialect} {cs : List Chunk}
    (h : (tableChunks t d options).outcome = .ok cs) :
    cs ≠ [] ∧ cs.filterMap Chunk.words? = t.freeTexts ∧ ∀ c ∈ cs, c.Marked d.mark := by
  obtain ⟨key, _, h⟩ := outcome_bind_ok.mp h
  obtain ⟨columns, hcolumns, h⟩ := outcome_bind_ok.mp h
  obtain ⟨closing, _, h⟩ := outcome_bind_ok.mp h
  cases h
  have hforall := outcome_each_iff.mp hcolumns
  have hwords := map_eq_of_forall₂ hforall fun hc => (columnChunks_ok hc).1
  refine ⟨by simp, ?_, ?_⟩
  · simp only [remarks, List.filterMap_append, List.filterMap_cons, Chunk.words_remark,
      Chunk.words?, Chunk.words_code, List.filterMap_flatten, hwords, List.append_nil]
    rw [Table.freeTexts, List.flatMap_def]
  · simp only [List.forall_mem_append, List.forall_mem_cons]
    refine ⟨⟨marked_remarks d (.inl rfl) _, trivial, ?_⟩, ?_⟩
    · intro c hc
      obtain ⟨column, hmem, hc⟩ := List.mem_flatten.mp hc
      obtain ⟨e, _, he⟩ := exists_of_mem_forall₂ hforall hmem
      exact (columnChunks_ok he).2 c hc
    · intro c hc
      obtain ⟨line, _, rfl⟩ := List.mem_map.mp hc
      trivial

/-- A table fails as its code does. -/
theorem fails_tableText_iff {t : Table} {d : Dialect}
    (h : d = .sql → Variant.ofOptions options = .sqlite) {f : Fault} :
    (tableText t d options).Fails f ↔ (tableCode t d options).Fails f := by
  rw [tableText_eq t h, tableCode_eq, fails_map, fails_map]

theorem tableCode_congr {t t' : Table} (h : t.uncommented = t'.uncommented) {d : Dialect}
    (hd : d = .sql → Variant.ofOptions options = .sqlite) :
    tableCode t d options = tableCode t' d options := by
  rw [← tableCode_uncommented t hd, h, tableCode_uncommented t' hd]

/-- So tables that differ in comments fail alike. -/
theorem fails_tableText_congr {t t' : Table} (h : t.uncommented = t'.uncommented) {d : Dialect}
    (hd : d = .sql → Variant.ofOptions options = .sqlite) {f : Fault} :
    (tableText t d options).Fails f ↔ (tableText t' d options).Fails f := by
  rw [fails_tableText_iff hd, fails_tableText_iff hd, tableCode_congr h hd]

/-- A table is made of its code, with its free text in remarks. -/
theorem laid_tableText {t : Table} {d : Dialect}
    (h : d = .sql → Variant.ofOptions options = .sqlite) {s : String}
    (hs : (tableText t d options).outcome = .ok s) :
    ∃ codes, (tableCode t d options).outcome = .ok codes ∧ Laid d.mark codes t.freeTexts s := by
  rw [tableText_eq t h] at hs
  obtain ⟨cs, hcs, rfl⟩ := outcome_map_ok.mp hs
  obtain ⟨hne, hwords, hmarked⟩ := tableChunks_ok hcs
  refine ⟨cs.filterMap Chunk.code?, ?_, cs, hne, rfl, rfl, hwords, hmarked⟩
  rw [tableCode_eq]
  exact outcome_map_ok.mpr ⟨cs, hcs, rfl⟩

end Emit

/-! ## What migrations are made of -/

/-- What a migration says of its entity. -/
def Entity.shownDescription (e : Entity) : String :=
  (e.description.filter (· != "")).getD (defaultDescription e)

/-- The free text of an entity in a migration. -/
def Entity.freeTexts (e : Entity) : List String := e.shownDescription :: e.table.freeTexts

namespace Migration

/-- The code of a migration before that of its table. -/
def opening (m : Migration) : List String := [
  s!"-- Migration: Create {m.table.name} table",
  s!"-- Entity: {m.entity}",
  s!"-- Version: {m.version}"]

/-- The lines between the description and the table. -/
def stampLines (m : Migration) : List String :=
  (m.stamp.toList.map fun s => s!"-- Generated: {s.text}") ++ [""]

/-- The lines after the table. -/
def closing (m : Migration) : List String :=
  sectionLines "Create indexes" m.entity (m.indexes.map Sql.CreateIndex.text) ++
  sectionLines "Create constraints" m.entity (m.constraints.map Sql.AddConstraint.text) ++
  sectionLines "Create relationships" m.entity (m.links.map Linkage.text) ++ [""]

/-- The code of a migration with that of its table. -/
def code (m : Migration) (table : List String) : List String :=
  m.opening ++ m.stampLines ++ (table ++ m.closing)

end Migration

/-- A migration is made of its code, with the free text of its entity in
remarks. -/
theorem laid_migrate {e : Entity} {v : Option String} {m : Migration}
    (h : (migrate e v (some .sqlite) stamp).outcome = .ok m) :
    ∃ table, (tableCode e.table .sql (some .sqlite)).outcome = .ok table ∧
      Laid "--" (m.code table) e.freeTexts m.text := by
  have hm := migrate_eq_ok.mp h
  have htext : (tableText e.table .sql (some .sqlite)).outcome = .ok m.table.text :=
    outcome_bind_ok.mpr ⟨_, hm.table, rfl⟩
  obtain ⟨table, htable, hlaid⟩ := laid_tableText (fun _ => rfl) htext
  refine ⟨table, htable, ?_⟩
  have hbefore : ∀ c ∈ m.opening.map Chunk.code ++
      .remark "-- Description: " m.description :: m.stampLines.map .code, c.Marked "--" := by
    simp only [List.forall_mem_append, List.forall_mem_cons]
    have hopening : OpensRemark "--" "-- Description: " := by decide
    exact ⟨Chunk.marked_code _, hopening, Chunk.marked_code _⟩
  have hwhole := hlaid.within hbefore (Chunk.marked_code m.closing)
  simp only [List.filterMap_append, List.filterMap_cons, Chunk.codes_code, Chunk.words_code,
    Chunk.code?, Chunk.words?, List.map_append, List.map_cons, Chunk.texts_code, Chunk.text,
    List.nil_append, List.append_nil] at hwhole
  have hwords : e.freeTexts = m.description :: e.table.freeTexts := by
    rw [hm.description]
    rfl
  have hcode : lines (m.opening ++ s!"-- Description: {m.description}" :: m.stampLines ++
      m.table.text :: m.closing) = m.text := by
    rw [Migration.text, lines_ended (by simp)]
    simp [Migration.header, Migration.opening, Migration.stampLines, Migration.closing]
  rw [hwords, ← hcode]
  exact hwhole

/-! ## Entities that differ in free text -/

variable {e e' : Entity}

theorem table_congr (h : e.uncommented = e'.uncommented) :
    e.table.uncommented = e'.table.uncommented :=
  congrArg Entity.table h

theorem relationships_congr (h : e.uncommented = e'.uncommented) :
    relationships e (some .sqlite) = relationships e' (some .sqlite) := by
  rw [← relationships_uncommented rfl e, h, relationships_uncommented rfl e']

theorem createIndexes_congr (h : e.uncommented = e'.uncommented) :
    Sql.createIndexes e options = Sql.createIndexes e' options := by
  rw [← createIndexes_uncommented e, h, createIndexes_uncommented e']

/-- Migrations of entities that differ in free text fail alike. -/
theorem fails_migrate_congr (h : e.uncommented = e'.uncommented) {v : Option String}
    {f : Fault} : (migrate e v (some .sqlite) stamp).Fails f ↔
      (migrate e' v (some .sqlite) stamp).Fails f := by
  have htable (f : Fault) : (Sql.createTable e.table (some .sqlite)).Fails f ↔
      (Sql.createTable e'.table (some .sqlite)).Fails f := by
    have htext (t : Table) : (tableText t .sql (some .sqlite)).Fails f ↔
        (Sql.createTable t (some .sqlite)).Fails f := fails_bind_of_returns fun _ => returns_pure _
    rw [← htext, ← htext]
    exact fails_tableText_congr (table_congr h) fun _ => rfl
  simp only [fails_migrate_iff, returns_iff_not_fails, htable, relationships_congr h]

/-- Their code differs in that of their tables alone. -/
theorem code_migrate_congr (h : e.uncommented = e'.uncommented) {v : Option String}
    {m m' : Migration} (hm : (migrate e v (some .sqlite) stamp).outcome = .ok m)
    (hm' : (migrate e' v (some .sqlite) stamp).outcome = .ok m') (table : List String) :
    m.code table = m'.code table := by
  have hid : e.id = e'.id := show e.uncommented.id = e'.uncommented.id by rw [h]
  have hversion : e.version = e'.version :=
    show e.uncommented.version = e'.uncommented.version by rw [h]
  have hname : m.table.name = m'.table.name :=
    (migrate_ok hm).trans ((congrArg (·.table.name) h).trans (migrate_ok hm').symm)
  have hconstraints : Sql.addConstraints e = Sql.addConstraints e' :=
    show Sql.addConstraints e.uncommented = Sql.addConstraints e'.uncommented by rw [h]
  have hm := migrate_eq_ok.mp hm
  have hm' := migrate_eq_ok.mp hm'
  have hindexes : m.indexes = m'.indexes := by
    have hi := hm.indexes
    rw [createIndexes_congr h] at hi
    exact Except.ok.inj (hi.symm.trans hm'.indexes)
  have hlinks : m.links = m'.links := by
    have hl := hm.links
    rw [relationships_congr h] at hl
    exact Except.ok.inj (hl.symm.trans hm'.links)
  simp only [Migration.code, Migration.opening, Migration.stampLines, Migration.closing,
    hname, hindexes, hlinks, hm.entity, hm'.entity, hm.version, hm'.version, hm.stamp, hm'.stamp,
    hm.constraints, hm'.constraints, hid, hversion, hconstraints]

/-- Two entities that differ in comments and descriptions alone: in each
dialect their tables fail alike, and where no free text of the one strays
from its remarks, both are the same without remarks exactly where no free
text of the other strays. The same holds of their migrations. -/
theorem same_code_iff_no_strays (h : e.uncommented = e'.uncommented) :
    (∀ (d : Dialect) (options : Option Variant), (d = .sql → options = some .sqlite) →
      (∀ f, (tableText e.table d options).Fails f ↔ (tableText e'.table d options).Fails f) ∧
      ∀ s s', (tableText e.table d options).outcome = .ok s →
        (tableText e'.table d options).outcome = .ok s' →
        (∀ w ∈ e'.table.freeTexts, strayLines d.mark w = []) →
        (codeLines d.mark s = codeLines d.mark s' ↔
          ∀ w ∈ e.table.freeTexts, strayLines d.mark w = [])) ∧
    ∀ (v : Option String) (stamp : Option Stamp),
      (∀ f, (migrate e v (some .sqlite) stamp).Fails f ↔
        (migrate e' v (some .sqlite) stamp).Fails f) ∧
      ∀ m m', (migrate e v (some .sqlite) stamp).outcome = .ok m →
        (migrate e' v (some .sqlite) stamp).outcome = .ok m' →
        (∀ w ∈ e'.freeTexts, strayLines "--" w = []) →
        (codeLines "--" m.text = codeLines "--" m'.text ↔
          ∀ w ∈ e.freeTexts, strayLines "--" w = []) := by
  refine ⟨fun d options hsqlite => ⟨fun f => ?_, fun s s' hs hs' => ?_⟩,
    fun v stamp => ⟨fun f => fails_migrate_congr h, fun m m' hm hm' => ?_⟩⟩
  · exact fails_tableText_congr (table_congr h) fun hd => by rw [hsqlite hd]; rfl
  · have hd : d = .sql → Variant.ofOptions options = .sqlite := fun hd => by rw [hsqlite hd]; rfl
    obtain ⟨codes, hcodes, hlaid⟩ := laid_tableText hd hs
    obtain ⟨codes', hcodes', hlaid'⟩ := laid_tableText hd hs'
    rw [tableCode_congr (table_congr h) hd] at hcodes
    obtain rfl : codes = codes' := Except.ok.inj (hcodes.symm.trans hcodes')
    exact hlaid.codeLines_eq_iff hlaid'
  · obtain ⟨table, htable, hlaid⟩ := laid_migrate hm
    obtain ⟨table', htable', hlaid'⟩ := laid_migrate hm'
    rw [tableCode_congr (table_congr h) fun _ => rfl] at htable
    obtain rfl : table = table' := Except.ok.inj (htable.symm.trans htable')
    rw [code_migrate_congr h hm hm'] at hlaid
    exact hlaid.codeLines_eq_iff hlaid'

/-- Orders with a comment. -/
def Entity.about (comment : String) : Entity :=
  .ofLinks { Table.ofKey "orders" (.plain .uuid) with comment := some comment } []

/-- Comments of one line leave the same code. -/
theorem same_code_one_line :
    (Entity.about "All orders").uncommented = (Entity.about "What was bought").uncommented ∧
    ∃ s s', (tableText (Entity.about "All orders").table .sql (some .sqlite)).outcome = .ok s ∧
      (tableText (Entity.about "What was bought").table .sql (some .sqlite)).outcome = .ok s' ∧
      codeLines "--" s = codeLines "--" s' := by
  have hsame : (Entity.about "All orders").uncommented =
      (Entity.about "What was bought").uncommented := rfl
  obtain ⟨s, hs⟩ : ∃ s,
      (tableText (Entity.about "All orders").table .sql (some .sqlite)).outcome = .ok s :=
    ⟨_, rfl⟩
  obtain ⟨s', hs'⟩ : ∃ s,
      (tableText (Entity.about "What was bought").table .sql (some .sqlite)).outcome = .ok s :=
    ⟨_, rfl⟩
  have hiff := ((same_code_iff_no_strays hsame).1 .sql _ fun _ => rfl).2 s s' hs hs' (by decide)
  exact ⟨hsame, s, s', hs, hs', hiff.mpr (by decide)⟩

/-- The second line of a comment is no remark in SQLite, and what is left
of the table has it. -/
theorem second_line_left :
    (Entity.about "All orders\nDROP TABLE users;").uncommented =
      (Entity.about "All orders").uncommented ∧
    ∃ s s', (tableText (Entity.about "All orders\nDROP TABLE users;").table .sql
        (some .sqlite)).outcome = .ok s ∧
      (tableText (Entity.about "All orders").table .sql (some .sqlite)).outcome = .ok s' ∧
      "DROP TABLE users;".toList ∈ codeLines "--" s ∧ codeLines "--" s ≠ codeLines "--" s' := by
  refine ⟨rfl, _, _, rfl, rfl, ?_, ?_⟩
  · decide +kernel
  · decide +kernel

end Polyschema
