/-
Polyschema.Proofs.IndexLoss — options of indexes that SQL does not have.

The statements of the indexes are made for the schema in SQL, for the list
of statements and for the migration. What they lose is reported for one of
them, whatever the dialects are.

* `Noted.OnlyNotes` — work of which all notes are of some kind.
* `Loss.ofSqlIndex` — losses at an index in SQL.
* `spares_createTable`, `spares_schemaText`, `spares_relationships` — no other
  part of an entity has such losses.
* `Index.lostOptions` — how many options of an index a variant lacks.
* `droppedOptions_compileEntity` — as many warnings as there are options
  that the variant lacks.
-/
import Mathlib.Algebra.GroupWithZero.Nat
import Polyschema.Proofs.Warning

namespace Polyschema

open Polyschema.Noted

/-! ## Notes of some kind -/

namespace Noted

variable {ν α β : Type} {P : ν → Prop}

/-- Every note of the work satisfies `P`. -/
def OnlyNotes (P : ν → Prop) (m : Noted ν α) : Prop := ∀ n ∈ m.notes, P n

@[simp] theorem onlyNotes_pure (a : α) : (pure a : Noted ν α).OnlyNotes P := by
  intro n hn
  cases hn

@[simp] theorem onlyNotes_fail (f : Fault) : (fail f : Noted ν α).OnlyNotes P := by
  intro n hn
  cases hn

@[simp] theorem onlyNotes_ofExcept (r : Except Fault α) :
    (ofExcept r : Noted ν α).OnlyNotes P := by
  intro n hn
  cases hn

@[simp] theorem onlyNotes_ofDefect (r : Except Defect α) :
    (ofDefect r : Noted ν α).OnlyNotes P := by
  intro n hn
  cases r <;> cases hn

@[simp] theorem onlyNotes_note (n : ν) : (note n).OnlyNotes P ↔ P n := by
  simp [OnlyNotes, note]

theorem onlyNotes_noteWhen {n : ν} (h : P n) (b : Bool) : (noteWhen b n).OnlyNotes P := by
  intro n' hn'
  cases b with
  | false => cases hn'
  | true =>
    obtain rfl := List.mem_singleton.mp hn'
    exact h

theorem OnlyNotes.bind {m : Noted ν α} {k : α → Noted ν β} (hm : m.OnlyNotes P)
    (hk : ∀ a, (k a).OnlyNotes P) : (m >>= k).OnlyNotes P := by
  intro n hn
  cases h : m.outcome with
  | error f =>
    rw [notes_bind_error h] at hn
    exact hm n hn
  | ok a =>
    rw [notes_bind_ok h] at hn
    obtain hn | hn := List.mem_append.mp hn
    · exact hm n hn
    · exact hk a n hn

theorem OnlyNotes.bind_pure {m : Noted ν α} (hm : m.OnlyNotes P) (g : α → β) :
    (m >>= fun a => pure (g a)).OnlyNotes P :=
  hm.bind fun a => onlyNotes_pure (g a)

/-- Work on a list has the notes of work on its items. -/
theorem onlyNotes_each {f : α → Noted ν β} {l : List α} (hf : ∀ a ∈ l, (f a).OnlyNotes P) :
    (each f l).OnlyNotes P := by
  induction l with
  | nil => exact onlyNotes_pure []
  | cons a rest ih =>
    obtain ⟨ha, hrest⟩ := List.forall_mem_cons.mp hf
    rw [each_cons]
    exact ha.bind fun b => (ih hrest).bind_pure _

end Noted

/-! ## Losses at an index in SQL -/

/-- Whether a loss is of an option that an index has and SQL has not. -/
def Loss.ofSqlIndex : Loss → Bool
  | accessMethod _ _ _ | partialSqlIndex _ => true
  | _ => false

/-- Work that loses no option of an index in SQL. -/
abbrev Noted.SparesIndexes {α : Type} (m : Emission α) : Prop :=
  m.OnlyNotes fun l => l.ofSqlIndex = false

namespace Emit

variable (t : ColumnType) (name : String) (options : Option Variant)

/-! ### Columns -/

theorem spares_base (d : Dialect) (fallback : String) :
    (base t d name options fallback).SparesIndexes := by
  unfold base
  split
  · simp
  · exact OnlyNotes.bind_pure (by simp [Loss.ofSqlIndex]) _

theorem spares_storedDefault (value : Value) :
    (storedDefault t value name).SparesIndexes := by
  unfold storedDefault
  refine OnlyNotes.bind (by simp) fun accepted => ?_
  split
  · simp
  · exact OnlyNotes.bind_pure (by simp [Loss.ofSqlIndex]) _

theorem spares_expressionOr (expression : Option String) (place : DefaultPlace) :
    (expressionOr expression t name place).SparesIndexes := by
  unfold expressionOr
  split
  · simp
  · exact OnlyNotes.bind_pure (by simp [Loss.ofSqlIndex]) _

theorem spares_defaultClause (setting : Setting) (v : Variant) :
    (Sql.defaultClause t name setting v).SparesIndexes := by
  unfold Sql.defaultClause
  split
  · exact (spares_expressionOr t name _ _).bind_pure _
  · refine (spares_storedDefault t name _).bind fun stored => ?_
    split
    · simp
    · exact OnlyNotes.bind_pure (by simp) _

theorem spares_sqlColumn (generatedAs comment : Option String) :
    (Sql.column t name options generatedAs comment).SparesIndexes := by
  have hdefault (v : Variant) : (Sql.defaultPart t name v).SparesIndexes := by
    unfold Sql.defaultPart
    split
    · exact spares_defaultClause t name _ v
    · simp
  have hidentity (v : Variant) : (Sql.identityPart t v).SparesIndexes := by
    unfold Sql.identityPart
    split
    · split <;> simp
    · simp
  unfold Sql.column Sql.columnParts
  refine OnlyNotes.bind_pure ((spares_base t name options _ _).bind fun fragment => ?_) _
  exact (hdefault _).bind fun default => (hidentity _).bind_pure _

theorem spares_bareType : (Sql.bareType t options).SparesIndexes := by
  unfold Sql.bareType
  exact (spares_base _ _ _ _ _).bind_pure _

theorem spares_drizzleColumn (generatedAs : Option String) :
    (Drizzle.column t name options generatedAs).SparesIndexes := by
  have hdefault (setting : Setting) : (Drizzle.defaultCall t name setting).SparesIndexes := by
    unfold Drizzle.defaultCall
    split
    · exact (spares_expressionOr t name _ _).bind_pure _
    · refine (spares_storedDefault t name _).bind fun stored => ?_
      split
      · simp
      · exact OnlyNotes.bind_pure (by simp) _
  have hmodifier (m : Modifier) : (Drizzle.modifierCall t name m).SparesIndexes := by
    unfold Drizzle.modifierCall
    split
    case h_4 => exact hdefault m.setting
    case h_5 =>
      split
      · exact OnlyNotes.bind_pure (by simp) _
      · simp
    all_goals simp
  unfold Drizzle.column
  exact (spares_base t name options _ _).bind fun call =>
    (onlyNotes_each fun m _ => hmodifier m).bind_pure _

theorem spares_prismaColumn (generatedAs : Option String) :
    (Prisma.column t name options generatedAs).SparesIndexes := by
  have hdefault (setting : Setting) : (Prisma.defaultAttribute t name setting).SparesIndexes := by
    unfold Prisma.defaultAttribute
    split
    · exact spares_expressionOr t name _ _
    · exact (spares_storedDefault t name _).bind fun stored => OnlyNotes.bind_pure (by simp) _
  have hmodifier (m : Modifier) : (Prisma.modifierAttribute t name m).SparesIndexes := by
    unfold Prisma.modifierAttribute
    dsimp only
    split
    case h_4 => exact hdefault m.setting
    all_goals simp
  unfold Prisma.column Prisma.field
  refine OnlyNotes.bind_pure ((spares_base t name options _ _).bind fun fragment => ?_) _
  exact (onlyNotes_each fun m _ => hmodifier m).bind fun attributes =>
    (onlyNotes_noteWhen (by rfl) _).bind_pure _

theorem ofSqlIndex_columnLosses (generatedAs : Option String) {l : Loss}
    (h : l ∈ Convex.columnLosses t name generatedAs) : l.ofSqlIndex = false := by
  unfold Convex.columnLosses at h
  obtain h | h := List.mem_append.mp h
  · obtain ⟨m, -, hm⟩ := List.mem_flatMap.mp h
    unfold Convex.modifierLosses at hm
    split at hm
    · obtain rfl := List.mem_singleton.mp hm
      rfl
    · split at hm
      · obtain rfl := List.mem_singleton.mp hm
        rfl
      · cases hm
    · cases hm
  · split at h
    · obtain rfl := List.mem_singleton.mp h
      rfl
    · cases h

theorem spares_convexColumn (generatedAs : Option String) :
    (Convex.column t name options generatedAs).SparesIndexes := by
  unfold Convex.column
  refine (spares_base t name options _ _).bind fun fragment => OnlyNotes.bind_pure ?_ _
  exact fun l hl => ofSqlIndex_columnLosses t name generatedAs hl

/-! ### Tables and relationships -/

variable {name options}

/-- The table of an entity in SQL has no index. -/
theorem spares_createTable (t : Table) : (Sql.createTable t options).SparesIndexes := by
  unfold Sql.createTable
  dsimp only
  split
  · simp
  · refine OnlyNotes.bind (by simp) fun key => OnlyNotes.bind_pure (onlyNotes_each ?_) _
    intro entry hentry
    exact (spares_sqlColumn _ _ _ _ _).bind_pure _

theorem spares_drizzleTable (t : Table) (indexes : List Index) :
    (Drizzle.table t options indexes).SparesIndexes := by
  unfold Drizzle.table
  refine OnlyNotes.bind (by simp) fun key => OnlyNotes.bind_pure (onlyNotes_each ?_) _
  intro entry hentry
  exact (spares_drizzleColumn _ _ _ _).bind_pure _

/-- What a model loses of an index is lost in Prisma. -/
theorem spares_prismaModel (t : Table) (indexes : List Index) (modelName : Option String) :
    (Prisma.model t options indexes modelName).SparesIndexes := by
  have hblock (key : List String) : (Prisma.blockLines t key indexes).SparesIndexes := by
    unfold Prisma.blockLines
    refine (onlyNotes_each fun i hi => ?_).bind fun indexLines =>
      (onlyNotes_each fun c hc => ?_).bind_pure _
    · exact (onlyNotes_noteWhen (by rfl) _).bind_pure _
    · exact OnlyNotes.bind_pure (by simp [Loss.ofSqlIndex]) _
  unfold Prisma.model
  refine OnlyNotes.bind (by simp) fun key => ?_
  refine (onlyNotes_each fun entry hentry => ?_).bind fun fields => (hblock key).bind_pure _
  exact (spares_prismaColumn _ _ _ _).bind_pure _

/-- What a table loses of an index is lost in Convex. -/
theorem spares_convexTable (t : Table) (indexes : List Index) :
    (Convex.table t options indexes).SparesIndexes := by
  have hrest : (⟨Convex.tableLosses t, .ok ()⟩ : Emission Unit).SparesIndexes := by
    intro l hl
    obtain hl | hl := List.mem_append.mp hl
    all_goals
      obtain ⟨part, -, rfl⟩ := List.mem_map.mp hl
      rfl
  unfold Convex.table
  refine OnlyNotes.bind (by simp) fun key => ?_
  refine (onlyNotes_each fun entry hentry => ?_).bind fun members =>
    (onlyNotes_each fun i hi => ?_).bind fun indexLines => hrest.bind_pure _
  · exact (spares_convexColumn _ _ _ _).bind_pure _
  · exact (onlyNotes_noteWhen (by rfl) _).bind_pure _

/-- In no other dialect anything of SQL is lost. -/
theorem spares_schemaText {e : Entity} {d : Dialect} (hd : d ≠ .sql) :
    (schemaText e d options).SparesIndexes := by
  cases d with
  | sql => exact absurd rfl hd
  | drizzle => exact spares_drizzleTable e.table e.allIndexes
  | prisma => exact spares_prismaModel e.table e.allIndexes (some (Text.pascal e.name.singular))
  | convex => exact spares_convexTable e.table e.allIndexes

/-- The indexes of key columns have no options. -/
theorem spares_relationship (r : Relationship) (context : Option Table) :
    (relationship r options context).SparesIndexes := by
  have hkey (side : Option Table) (column : String) :
      (keyType side column options).SparesIndexes := by
    unfold keyType
    split <;> exact spares_bareType _ options
  have hdirect (c : Cardinality) : (directLink c r options).SparesIndexes := by
    refine OnlyNotes.bind_pure (fun l hl => ?_) _
    rw [Emission.losses_eq, foreignKeyLosses] at hl
    obtain hl | hl := List.mem_append.mp hl
    all_goals
      split at hl
      · obtain rfl := List.mem_singleton.mp hl
        rfl
      · cases hl
  unfold relationship
  split
  · simp
  · split
    · unfold junctionLink
      refine (hkey _ _).bind fun localType => (hkey _ _).bind fun foreignType => ?_
      refine (onlyNotes_each fun entry hentry => ?_).bind_pure _
      exact (spares_sqlColumn _ _ _ _ _).bind_pure _
    · exact hdirect _
    · simp

theorem spares_relationships (e : Entity) : (relationships e options).SparesIndexes :=
  onlyNotes_each fun r _ => spares_relationship r _

end Emit

/-! ## Warnings of dropped options -/

/-- Whether a finding warns of an option of an index that is dropped in a
dialect. -/
def Diagnostic.isDroppedOption (dialect : Dialect) (d : Diagnostic) : Bool :=
  d.isWarning && d.code == "INDEX_OPTION_DROPPED" &&
    (d.context.lookup "dialect").bind Value.asString? == some dialect.tag

theorem isDroppedOption_diagnostic (l : Loss) :
    l.diagnostic.isDroppedOption .sql = l.ofSqlIndex := by
  cases l <;> rfl

/-- No finding of the check warns of a dropped option. -/
theorem isDroppedOption_finding (f : Finding) (d : Dialect) :
    f.diagnostic.isDroppedOption d = false := by
  have hcode : (f.code == "INDEX_OPTION_DROPPED") = false := by
    cases f <;> rfl
  unfold Diagnostic.isDroppedOption Finding.diagnostic
  rw [hcode, Bool.and_false, Bool.false_and]

/-- How many findings warn of options of indexes that SQL drops. -/
def Diagnostic.droppedInSql (log : List Diagnostic) : Nat :=
  log.countP (Diagnostic.isDroppedOption .sql)

theorem droppedInSql_append (a b : List Diagnostic) :
    Diagnostic.droppedInSql (a ++ b) = Diagnostic.droppedInSql a + Diagnostic.droppedInSql b :=
  List.countP_append

theorem droppedInSql_losses (losses : List Loss) :
    Diagnostic.droppedInSql (losses.map Loss.diagnostic) = losses.countP Loss.ofSqlIndex := by
  unfold Diagnostic.droppedInSql
  rw [List.countP_map]
  exact List.countP_congr fun l _ => by rw [Function.comp_apply, isDroppedOption_diagnostic]

theorem droppedInSql_findings (findings : List Finding) :
    Diagnostic.droppedInSql (diagnosticsOf findings) = 0 := by
  refine List.countP_eq_zero.mpr fun d hd => ?_
  obtain ⟨f, -, rfl⟩ := List.mem_map.mp hd
  simp [isDroppedOption_finding]

theorem countP_of_spares {α : Type} {m : Emission α} (h : m.SparesIndexes) :
    m.notes.countP Loss.ofSqlIndex = 0 :=
  List.countP_eq_zero.mpr fun l hl => by simp [h l hl]

/-! ## Options that a variant lacks -/

/-- Whether a variant lacks an access method: SQLite has none, and MySQL
neither of the two that PostgreSQL has for values with parts. -/
def Variant.lacksMethod : Variant → AccessMethod → Bool
  | .sqlite, _ => true
  | .mysql, .gist | .mysql, .gin => true
  | _, _ => false

/-- How many options of an index a variant cannot express: its access
method, and in MySQL its predicate. -/
def Index.lostOptions (v : Variant) (i : Index) : Nat :=
  (if i.method.any v.lacksMethod then 1 else 0) +
    if v = .mysql ∧ isGiven i.predicate then 1 else 0

/-- How many options of its indexes a variant cannot express. -/
def Entity.lostOptions (v : Variant) (e : Entity) : Nat :=
  (e.allIndexes.map (Index.lostOptions v)).sum

namespace Emit

/-- A statement for an index loses the options that the variant lacks. -/
theorem countP_indexLosses (v : Variant) (i : Index) :
    (Sql.indexLosses v i).countP Loss.ofSqlIndex = i.lostOptions v := by
  have hpredicate : (if v = .mysql ∧ isGiven i.predicate then
      [Loss.partialSqlIndex i.name] else []).countP Loss.ofSqlIndex =
      if v = .mysql ∧ isGiven i.predicate then 1 else 0 := by
    split <;> rfl
  unfold Sql.indexLosses Index.lostOptions
  rw [List.countP_append, hpredicate]
  congr 1
  cases hmethod : i.method with
  | none => rfl
  | some m => cases v <;> cases m <;> rfl

theorem notes_createIndexes (e : Entity) (options : Option Variant) :
    (Sql.createIndexes e options).notes =
      e.allIndexes.flatMap (Sql.indexLosses (Variant.ofOptions options)) :=
  notes_each_ok (returns_each.mpr fun _ _ => ⟨_, rfl⟩)

theorem countP_createIndexes (e : Entity) (v : Variant) :
    (Sql.createIndexes e (some v)).notes.countP Loss.ofSqlIndex = e.lostOptions v := by
  rw [notes_createIndexes, List.countP_flatMap]
  exact congrArg List.sum (List.map_congr_left fun i _ => countP_indexLosses v i)

/-- The schemas lose the options once where SQL is among the dialects, and
otherwise not at all. -/
theorem countP_schemaTexts {e : Entity} {dialects : List Dialect} (hdistinct : dialects.Nodup)
    {v : Variant} (h : (schemaTexts e dialects (some v)).Returns) :
    (schemaTexts e dialects (some v)).notes.countP Loss.ofSqlIndex =
      if .sql ∈ dialects then e.lostOptions v else 0 := by
  have hother {ds : List Dialect} (hds : .sql ∉ ds) :
      (ds.flatMap fun d => (schemaText e d (some v)).notes).countP Loss.ofSqlIndex = 0 := by
    refine List.countP_eq_zero.mpr fun l hl => ?_
    obtain ⟨d, hd, hl⟩ := List.mem_flatMap.mp hl
    have hspared : (schemaText e d (some v)).SparesIndexes :=
      spares_schemaText fun heq => hds (heq ▸ hd)
    simp [hspared l hl]
  have hschema (hd : .sql ∈ dialects) : (schemaText e .sql (some v)).Returns :=
    (returns_bind_of_returns fun _ => returns_pure _).mp (returns_each.mp h .sql hd)
  rw [notes_schemaTexts h]
  split
  case isFalse hd => exact hother hd
  case isTrue hd =>
    have hsql := notes_schemaText_sql (hschema hd)
    obtain ⟨before, after, rfl⟩ := List.append_of_mem hd
    have hbefore : .sql ∉ before := fun hmem =>
      (List.nodup_append.mp hdistinct).2.2 _ hmem _ List.mem_cons_self rfl
    have hafter : .sql ∉ after :=
      (List.nodup_cons.mp (List.nodup_append.mp hdistinct).2.1).1
    rw [List.flatMap_append, List.flatMap_cons, List.countP_append, List.countP_append,
      hother hbefore, hother hafter, hsql, List.countP_append,
      countP_of_spares (spares_createTable e.table), countP_createIndexes]
    omega

end Emit

/-! ## Once each -/

/-- An entity that compiles has one warning for each option of an index
that the SQL variant lacks, whatever the dialects are. -/
theorem droppedOptions_compileEntity {c : Config} (hdistinct : c.dialects.Nodup) {e : Entity}
    {stamp : Option Stamp} {g : Generated} (h : (compileEntity c e stamp).outcome = .ok g) :
    Diagnostic.droppedInSql g.diagnostics = e.lostOptions c.variant := by
  have hfound : Diagnostic.droppedInSql
      (if c.validateFirst then diagnosticsOf (Check.entity e) else []) = 0 := by
    split
    · exact droppedInSql_findings _
    · rfl
  have hlast : Diagnostic.droppedInSql (if c.dialects.contains .sql then []
      else (Emit.Sql.createIndexes e (some c.variant)).notes.map Loss.diagnostic) =
      if .sql ∈ c.dialects then 0 else e.lostOptions c.variant := by
    simp only [List.contains_iff_mem]
    split
    · rfl
    · rw [droppedInSql_losses, Emit.countP_createIndexes]
  rw [diagnostics_compileEntity h, droppedInSql_append, droppedInSql_append, droppedInSql_append,
    hfound, hlast, droppedInSql_losses, droppedInSql_losses,
    countP_of_spares (Emit.spares_relationships e),
    Emit.countP_schemaTexts hdistinct ⟨_, (compileEntity_ok h).1⟩]
  split <;> omega

/-- An entity with an index of an access method and with a partial one
too. -/
def optionedEntity : Entity :=
  { Entity.ofLinks (.ofKey "lines" (.plain .uuid)) [] with
    indexes := [
      ⟨"by_shape", "lines", ["id"], false, none, some .gist⟩,
      ⟨"by_hash", "lines", ["id"], false, some "id IS NOT NULL", some .hash⟩] }

theorem droppedOptions_optionedEntity :
    let c : Config := { Config.standard with variant := .mysql }
    let d : Config := { c with dialects := [.convex, .prisma] }
    c.dialects.Nodup ∧ d.dialects.Nodup ∧
    ∃ g g', (compileEntity c optionedEntity none).outcome = .ok g ∧
      (compileEntity d optionedEntity none).outcome = .ok g' ∧
      Diagnostic.droppedInSql g.diagnostics = 2 ∧
      Diagnostic.droppedInSql g'.diagnostics = 2 := by
  intro c d
  have hc : c.dialects.Nodup := by decide
  have hd : d.dialects.Nodup := by decide
  have hlost : optionedEntity.lostOptions .mysql = 2 := rfl
  refine ⟨hc, hd, _, _, rfl, rfl, ?_, ?_⟩
  · exact (droppedOptions_compileEntity hc
      (rfl : (compileEntity c optionedEntity none).outcome = .ok _)).trans hlost
  · exact (droppedOptions_compileEntity hd
      (rfl : (compileEntity d optionedEntity none).outcome = .ok _)).trans hlost

end Polyschema
