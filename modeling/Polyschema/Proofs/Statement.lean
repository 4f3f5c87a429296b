/-
Polyschema.Proofs.Statement — the statements of a schema file in SQL,
against those of the migrations.

* `Statement` — what is emitted for an entity: its table, an index, a
  constraint or a relationship.
* `IsScript`, `isScript_migration` — a script has the statements of its
  entity, and beside them comments and blank lines.
* `tablesFirst`, `opens_before` — the order in which no constraint and no
  relationship comes before a table.
* `madeOf_compileEntity` — the schema of an entity, and what follows all
  tables, are made of the statements of its migration.
* `schemaFile_of_success` — so a schema file has the statements of all
  scripts, and what may refer to the tables of entities follows them.
-/
import Mathlib.Data.List.Perm.Basic
import Polyschema.Proofs.Remark
import Polyschema.Proofs.Run

namespace Polyschema

open Polyschema.Text Polyschema.Noted Polyschema.Emit

variable {c : Config} {e : Entity} {options : Option Variant} {stamp : Option Stamp}

/-! ## Statements -/

/-- What is emitted for an entity in SQL, piece by piece. -/
inductive Statement where
  | table (t : Sql.CreateTable)
  | index (i : Sql.CreateIndex)
  | constraint (c : Sql.AddConstraint)
  | link (l : Linkage)

namespace Statement

/-- A statement as text. -/
def text : Statement → String
  | table t => t.text
  | index i => i.text
  | constraint c => c.text
  | link l => l.text

/-- Whether a statement is of a table itself. The others add to tables that
are there. -/
def opens : Statement → Bool
  | table _ => true
  | index _ => true
  | constraint _ => false
  | link _ => false

/-- The tables to which the foreign keys of a relationship refer. -/
def references : Statement → List String
  | link (.direct _ key _) => [key.foreignTable]
  | link (.junction _ _ junction _) =>
    [junction.localKey.foreignTable, junction.foreignKey.foreignTable]
  | _ => []

theorem references_of_opens {s : Statement} (h : s.opens = true) : s.references = [] := by
  cases s with
  | table t => rfl
  | index i => rfl
  | constraint c => cases h
  | link l => cases h

end Statement

/-- What is emitted for an entity: its table, its indexes, its constraints
and its relationships. -/
def Emitted (options : Option Variant) (e : Entity) (ss : List Statement) : Prop :=
  ∃ table indexes links,
    (Sql.createTable e.table options).outcome = .ok table ∧
    (Sql.createIndexes e options).outcome = .ok indexes ∧
    (relationships e options).outcome = .ok links ∧
    ss = .table table :: indexes.map .index ++
      ((Sql.addConstraints e).map .constraint ++ links.map .link)

/-- Statements in the order of a schema file: those of the tables
themselves, then the others. -/
def tablesFirst (ss : List Statement) : List Statement :=
  ss.filter Statement.opens ++ ss.filter (!·.opens)

theorem perm_tablesFirst (ss : List Statement) : (tablesFirst ss).Perm ss :=
  List.filter_append_perm _ ss

/-- Before what is of a table itself there is nothing else. -/
theorem pairwise_tablesFirst (ss : List Statement) :
    (tablesFirst ss).Pairwise fun a b => b.opens = true → a.opens = true := by
  refine List.pairwise_append.mpr ⟨?_, ?_, ?_⟩
  · refine List.pairwise_of_forall_mem_list fun a ha _ _ _ => ?_
    exact (List.mem_filter.mp ha).2
  · refine List.pairwise_of_forall_mem_list fun _ _ b hb hopens => ?_
    exact absurd hopens (by simpa using (List.mem_filter.mp hb).2)
  · exact fun a ha _ _ _ => (List.mem_filter.mp ha).2

/-- So what is not of a table itself comes after all that is. -/
theorem opens_before {ss before after : List Statement} {s : Statement}
    (h : tablesFirst ss = before ++ s :: after) (hs : s.opens = false) :
    (∀ o ∈ ss, o.opens = true → o ∈ before) ∧ ∀ o ∈ after, o.opens = false := by
  have hpairs := pairwise_tablesFirst ss
  rw [h, List.pairwise_append, List.pairwise_cons] at hpairs
  have hafter : ∀ o ∈ after, o.opens = false := fun o ho =>
    Bool.eq_false_iff.mpr fun hopens => by simp [hpairs.2.1.1 o ho hopens] at hs
  refine ⟨fun o ho hopens => ?_, hafter⟩
  have hmem : o ∈ before ++ s :: after := h ▸ (perm_tablesFirst ss).mem_iff.mpr ho
  rcases List.mem_append.mp hmem with hmem | hmem
  · exact hmem
  · rcases List.mem_cons.mp hmem with rfl | hmem
    · simp [hs] at hopens
    · simp [hafter o hmem] at hopens

/-! ## Scripts -/

/-- A part of a script: a line of its own, or a statement. -/
inductive ScriptPart where
  | remark (line : String)
  | statement (s : Statement)

namespace ScriptPart

/-- A part as text. -/
def text : ScriptPart → String
  | remark line => line
  | statement s => s.text

/-- The statement, if it is one. -/
def statement? : ScriptPart → Option Statement
  | remark _ => none
  | statement s => some s

/-- A line of its own is blank or a comment. -/
def IsQuiet : ScriptPart → Prop
  | remark line => line = "" ∨ isRemark "--" line.toList = true
  | statement _ => True

end ScriptPart

/-- A script that has the statements, and beside them comments and blank
lines. -/
def IsScript (ss : List Statement) (script : String) : Prop :=
  ∃ parts : List ScriptPart, script = lines (parts.map ScriptPart.text) ++ "\n" ∧
    parts.filterMap ScriptPart.statement? = ss ∧ ∀ p ∈ parts, p.IsQuiet

namespace Migration

/-- The statements of a migration, in their order. -/
def statements (m : Migration) : List Statement :=
  .table m.table :: m.indexes.map .index ++ (m.constraints.map .constraint ++ m.links.map .link)

/-- The parts of a titled section. -/
def sectionParts (title entity : String) (ss : List Statement) : List ScriptPart :=
  if ss.isEmpty then []
  else .remark "" :: .remark s!"-- {title} for {entity}" :: ss.map .statement

/-- The parts of a script. -/
def parts (m : Migration) : List ScriptPart :=
  m.header.map .remark ++ [.remark "", .statement (.table m.table)] ++
    sectionParts "Create indexes" m.entity (m.indexes.map .index) ++
    sectionParts "Create constraints" m.entity (m.constraints.map .constraint) ++
    sectionParts "Create relationships" m.entity (m.links.map .link)

theorem texts_sectionParts (title entity : String) (ss : List Statement) :
    (sectionParts title entity ss).map ScriptPart.text =
      sectionLines title entity (ss.map Statement.text) := by
  cases ss with
  | nil => rfl
  | cons s rest => simp [sectionParts, sectionLines, ScriptPart.text, Function.comp_def]

theorem statements_sectionParts (title entity : String) (ss : List Statement) :
    (sectionParts title entity ss).filterMap ScriptPart.statement? = ss := by
  cases ss with
  | nil => rfl
  | cons s rest =>
    show (List.map ScriptPart.statement (s :: rest)).filterMap ScriptPart.statement? = s :: rest
    rw [List.filterMap_map]
    exact List.filterMap_some

theorem quiet_sectionParts (title entity : String) (ss : List Statement) :
    ∀ p ∈ sectionParts title entity ss, p.IsQuiet := by
  intro p hp
  unfold sectionParts at hp
  split at hp
  · cases hp
  · rcases List.mem_cons.mp hp with rfl | hp
    · exact .inl rfl
    rcases List.mem_cons.mp hp with rfl | hp
    · have hopening : isRemark "--" "-- ".toList = true := by decide
      refine .inr ?_
      iterate 3 refine isRemark_toList_append ?_ _
      exact hopening
    · obtain ⟨s, _, rfl⟩ := List.mem_map.mp hp
      trivial

theorem quiet_header (m : Migration) : ∀ line ∈ m.header, (ScriptPart.remark line).IsQuiet := by
  intro line hl
  have htable : isRemark "--" "-- Migration: Create ".toList = true := by decide
  have hentity : isRemark "--" "-- Entity: ".toList = true := by decide
  have hversion : isRemark "--" "-- Version: ".toList = true := by decide
  have hdescription : isRemark "--" "-- Description: ".toList = true := by decide
  have hstamp : isRemark "--" "-- Generated: ".toList = true := by decide
  rcases List.mem_append.mp hl with hl | hl
  · simp only [List.mem_cons, List.not_mem_nil, or_false] at hl
    obtain rfl | rfl | rfl | rfl := hl
    · exact .inr (isRemark_toList_append (isRemark_toList_append htable _) _)
    · exact .inr (isRemark_toList_append hentity _)
    · exact .inr (isRemark_toList_append hversion _)
    · exact .inr (isRemark_toList_append hdescription _)
  · obtain ⟨stamp, _, rfl⟩ := List.mem_map.mp hl
    exact .inr (isRemark_toList_append hstamp _)

end Migration

/-- A script has the statements of its migration. -/
theorem isScript_migration (m : Migration) : IsScript m.statements m.text := by
  refine ⟨m.parts, ?_, ?_, ?_⟩
  · simp [Migration.text, Migration.parts, Migration.texts_sectionParts, Function.comp_def,
      ScriptPart.text, Statement.text]
  · simp [Migration.parts, Migration.statements_sectionParts, Migration.statements,
      List.filterMap_cons, ScriptPart.statement?, List.filterMap_map, Function.comp_def]
  · simp only [Migration.parts, List.forall_mem_append, List.forall_mem_cons,
      List.forall_mem_map]
    exact ⟨⟨⟨⟨m.quiet_header, .inl rfl, trivial, nofun⟩, Migration.quiet_sectionParts _ _ _⟩,
      Migration.quiet_sectionParts _ _ _⟩, Migration.quiet_sectionParts _ _ _⟩

/-! ## Schema files -/

namespace Migration

theorem opening_statements (m : Migration) :
    m.statements.filter Statement.opens = .table m.table :: m.indexes.map .index := by
  simp [statements, List.filter_cons, List.filter_map, Function.comp_def, Statement.opens]

theorem closing_statements (m : Migration) :
    m.statements.filter (!·.opens) = m.constraints.map .constraint ++ m.links.map .link := by
  simp [statements, List.filter_map, Function.comp_def, Statement.opens]

end Migration

/-- A migration has what is emitted for its entity. -/
theorem emitted_migrate {v : Option String} {m : Migration}
    (h : (migrate e v options stamp).outcome = .ok m) : Emitted options e m.statements := by
  obtain ⟨_, _, _, _, ht, hi, hc, hl⟩ := migrate_eq_ok.mp h
  exact ⟨m.table, m.indexes, m.links, ht, hi, hl, by rw [← hc]; rfl⟩

namespace CommandLine

/-- The schema of an entity and what follows all tables are made of
statements. -/
def MadeOf (g : Generated) (ss : List Statement) : Prop :=
  (g.schema? .sql).getD "" = paragraphs ((ss.filter Statement.opens).map Statement.text) ∧
  trailing .sql g = (ss.filter (!·.opens)).map Statement.text

/-- In SQL they are those of its migration. -/
theorem madeOf_compileEntity (hd : c.dialects = [.sql]) {g : Generated}
    (hg : (compileEntity c e stamp).outcome = .ok g) {v : Option String} {m : Migration}
    (hm : (migrate e v (some c.variant) stamp).outcome = .ok m) : MadeOf g m.statements := by
  have hm := migrate_eq_ok.mp hm
  obtain ⟨hschema, links, hlinks, htrailing⟩ := schemaTexts_compileEntity hd hg
  obtain ⟨table, ht, hschema⟩ := outcome_bind_ok.mp hschema
  obtain ⟨indexes, hi, hschema⟩ := outcome_bind_ok.mp hschema
  obtain rfl : table = m.table := Except.ok.inj (ht.symm.trans hm.table)
  obtain rfl : indexes = m.indexes := Except.ok.inj (hi.symm.trans hm.indexes)
  obtain rfl : links = m.links := Except.ok.inj (hlinks.symm.trans hm.links)
  rw [MadeOf, m.opening_statements, m.closing_statements, hm.constraints]
  refine ⟨(Except.ok.inj hschema).symm.trans ?_, htrailing.trans ?_⟩
  · simp [Statement.text, Function.comp_def]
  · simp [Statement.text, Function.comp_def]

/-- Paragraphs that are made of paragraphs, and then, if there are any,
further ones. -/
theorem paragraphs_append {openings : List (List String)} {closings : List String}
    (hne : ∀ pieces ∈ openings, pieces ≠ []) (hnone : openings = [] → closings = []) :
    (if closings.isEmpty then paragraphs (openings.map paragraphs)
      else paragraphs (paragraphs (openings.map paragraphs) :: closings)) =
      paragraphs (openings.flatten ++ closings) := by
  have hopenings : paragraphs (openings.map paragraphs) = paragraphs openings.flatten :=
    intercalate_flatten _ hne
  rw [hopenings]
  cases hempty : closings.isEmpty with
  | true => simp [List.isEmpty_iff.mp hempty]
  | false =>
    refine intercalate_cons_intercalate _ (fun hflat => ?_) _
    have hopen : openings = [] := by
      refine List.eq_nil_iff_forall_not_mem.mpr fun pieces hp => hne pieces hp ?_
      exact List.flatten_eq_nil_iff.mp hflat pieces hp
    simp [hnone hopen] at hempty

/-- A schema file has the statements of all migrations, the tables first. -/
theorem schemaFile_statements {r : Report} {es : List Entity} {ms : List Migration} {v : Variant}
    (h : List.Forall₂ (fun p m => MadeOf p.2 m.statements) (compiledOf r es) ms) :
    schemaFile r es .sql v =
      paragraphs ((tablesFirst (ms.flatMap Migration.statements)).map Statement.text) ++ "\n" := by
  let opening (m : Migration) := (m.statements.filter Statement.opens).map Statement.text
  let closing (m : Migration) := (m.statements.filter (!·.opens)).map Statement.text
  have hopenings : (compiledOf r es).map (fun p => (p.2.schema? .sql).getD "") =
      (ms.map opening).map paragraphs := by
    rw [List.map_map]
    exact (map_eq_of_forall₂ h fun hp => hp.1.symm).symm
  have hclosings : (compiledOf r es).flatMap (fun p => trailing .sql p.2) =
      ms.flatMap closing := by
    rw [List.flatMap_def, List.flatMap_def]
    exact congrArg List.flatten (map_eq_of_forall₂ h fun hp => hp.2.symm).symm
  have hall : (tablesFirst (ms.flatMap Migration.statements)).map Statement.text =
      (ms.map opening).flatten ++ ms.flatMap closing := by
    simp [tablesFirst, opening, closing, List.flatMap_def, List.map_flatten, Function.comp_def]
  have hne : ∀ pieces ∈ ms.map opening, pieces ≠ [] := by
    simp [opening, Migration.opening_statements]
  have hnone : ms.map opening = [] → ms.flatMap closing = [] := by
    intro hnil
    rw [List.map_eq_nil_iff.mp hnil]
    rfl
  rw [hall, ← paragraphs_append hne hnone, ← hopenings, ← hclosings]
  rfl

/-- Where all entities compile, the schema file has the statements that the
scripts of the batch have, each as often. It has them in another order: no
constraint and no relationship comes before the table of an entity, so no
foreign key refers to one that is created later. -/
theorem schemaFile_of_success (hd : c.dialects = [.sql]) {es : List Entity}
    (hids : (es.map (·.id)).Nodup) {version : String} {now : Calendar.Timestamp} {r : Report}
    (h : (compileBatch c es version now).outcome = .ok r) (hs : r.success = true) :
    ∃ b sss, r.batch = some b ∧ List.Forall₂ (Emitted (some c.variant)) es sss ∧
      List.Forall₂ IsScript sss b.up ∧
      schemaFile r es .sql c.variant =
        paragraphs ((tablesFirst sss.flatten).map Statement.text) ++ "\n" ∧
      (tablesFirst sss.flatten).Perm sss.flatten ∧
      ∀ before s after, tablesFirst sss.flatten = before ++ s :: after →
        (s.opens = false → (∀ o ∈ after, o.opens = false) ∧ ∀ e ∈ es, ∃ t,
          (Sql.createTable e.table (some c.variant)).outcome = .ok t ∧ .table t ∈ before) ∧
        ∀ name ∈ s.references, name ∈ Check.tableNames es →
          ∃ t, .table t ∈ before ∧ t.name = name := by
  obtain ⟨hall, hps, b, ms, hbatch, hms, hup, -⟩ := compiled_of_success hids h hs
  have htexts : List.Forall₂ (fun p m => MadeOf p.2 m.statements) (compiledOf r es) ms := by
    have hpairs := hms
    rw [← hall, CompiledTo, List.forall₂_map_left_iff] at hpairs
    exact ((List.forall₂_and_left _ _).mpr ⟨hps, hpairs⟩).imp fun _ _ hp =>
      madeOf_compileEntity hd hp.1 hp.2
  have hemitted : List.Forall₂ (Emitted (some c.variant)) es (ms.map Migration.statements) :=
    List.forall₂_map_right_iff.mpr (hms.imp fun _ _ hm => emitted_migrate hm)
  have hscripts : List.Forall₂ IsScript (ms.map Migration.statements) b.up := by
    rw [hup, List.forall₂_map_left_iff, List.forall₂_map_right_iff]
    exact List.forall₂_same.mpr fun m _ => isScript_migration m
  have htable : ∀ e ∈ es, ∃ t, (Sql.createTable e.table (some c.variant)).outcome = .ok t ∧
      .table t ∈ (ms.map Migration.statements).flatten := by
    intro e he
    obtain ⟨m, hm, hmigrated⟩ := exists_of_mem_forall₂ hms.flip he
    refine ⟨m.table, (migrate_eq_ok.mp hmigrated).table, ?_⟩
    exact List.mem_flatten_of_mem (List.mem_map_of_mem hm) (List.mem_cons_self ..)
  refine ⟨b, _, hbatch, hemitted, hscripts, schemaFile_statements htexts, perm_tablesFirst _,
    fun before s after hsplit => ?_⟩
  have hbefore (hopens : s.opens = false) : ∀ e ∈ es, ∃ t,
      (Sql.createTable e.table (some c.variant)).outcome = .ok t ∧ .table t ∈ before := by
    intro e he
    obtain ⟨t, ht, hmem⟩ := htable e he
    exact ⟨t, ht, (opens_before hsplit hopens).1 _ hmem rfl⟩
  refine ⟨fun hopens => ⟨(opens_before hsplit hopens).2, hbefore hopens⟩, ?_⟩
  intro name href hname
  cases hopens : s.opens with
  | true => simp [s.references_of_opens hopens] at href
  | false =>
    obtain ⟨e, he, rfl⟩ := List.mem_map.mp hname
    obtain ⟨t, ht, hmem⟩ := hbefore hopens e he
    exact ⟨t, hmem, createTable_name ht⟩

/-- Orders that are joined to tags, and the tags after them: all of what
is emitted for both is in the file and in the scripts. -/
theorem schemaFile_of_success_orders :
    ∃ r b sss, (compileBatch { Config.standard with dialects := [.sql] }
        [.joined "orders" "tags" "order_tags", .ofLinks (.ofKey "tags" (.plain .uuid)) []]
        "1" newYear).outcome = .ok r ∧ r.success = true ∧ r.batch = some b ∧
      List.Forall₂ IsScript sss b.up ∧ sss.length = 2 ∧
      schemaFile r [.joined "orders" "tags" "order_tags",
        .ofLinks (.ofKey "tags" (.plain .uuid)) []] .sql Config.standard.variant =
        paragraphs ((tablesFirst sss.flatten).map Statement.text) ++ "\n" := by
  obtain ⟨r, hr, hs⟩ : ∃ r, (compileBatch { Config.standard with dialects := [.sql] }
      [.joined "orders" "tags" "order_tags", .ofLinks (.ofKey "tags" (.plain .uuid)) []]
      "1" newYear).outcome = .ok r ∧ r.success = true := ⟨_, rfl, by decide +kernel⟩
  have hids : ([Entity.joined "orders" "tags" "order_tags",
      .ofLinks (.ofKey "tags" (.plain .uuid)) []].map (·.id)).Nodup := by decide
  obtain ⟨b, sss, hb, hemitted, hscripts, hfile, -⟩ := schemaFile_of_success rfl hids hr hs
  exact ⟨r, b, sss, hr, hs, hb, hscripts, hemitted.length_eq.symm, hfile⟩

end CommandLine

end Polyschema
