/-
Polyschema.Proofs.Warning — the warnings that are left where warnings are
failures.

* `diagnostics_compileEntity`, `notes_migrate` — what is found on an
  entity, and what its migration loses.
* `notes_migrate_of_clear` — the migration of an entity without warnings
  loses no more than its table does, and nothing where SQL is among the
  dialects.
* `compileBatch_warnings` — so a batch from which warnings are kept out has
  the warnings of these tables.
-/
import Polyschema.Proofs.Report

namespace Polyschema

open Polyschema.Noted Polyschema.Emit

variable {c : Config} {e : Entity} {options : Option Variant} {stamp : Option Stamp}

/-! ## Losses of an entity -/

/-- A migration loses what its table, its indexes and its relationships
lose. -/
theorem notes_migrate {v : Option String} (h : (migrate e v options stamp).Returns) :
    (migrate e v options stamp).notes = (Sql.createTable e.table options).notes ++
      ((Sql.createIndexes e options).notes ++ (relationships e options).notes) := by
  unfold migrate at h ⊢
  obtain ⟨table, ht, h⟩ := returns_bind.mp h
  obtain ⟨indexes, hi, h⟩ := returns_bind.mp h
  obtain ⟨links, hl, _⟩ := returns_bind.mp h
  rw [notes_bind_ok ht, notes_bind_ok hi, notes_bind_ok hl]
  exact congrArg (_ ++ ·) (congrArg (_ ++ ·) (List.append_nil _))

/-- The schema of an entity in SQL loses what its table and its indexes
lose. -/
theorem notes_schemaText_sql (h : (schemaText e .sql options).Returns) :
    (schemaText e .sql options).notes =
      (Sql.createTable e.table options).notes ++ (Sql.createIndexes e options).notes := by
  unfold schemaText at h ⊢
  obtain ⟨table, ht, h⟩ := returns_bind.mp h
  obtain ⟨indexes, hi, _⟩ := returns_bind.mp h
  rw [notes_bind_ok ht, notes_bind_ok hi]
  exact congrArg (_ ++ ·) (List.append_nil _)

/-- The schemas of an entity lose what the schema in each dialect loses. -/
theorem notes_schemaTexts {dialects : List Dialect}
    (h : (schemaTexts e dialects options).Returns) :
    (schemaTexts e dialects options).notes =
      dialects.flatMap fun d => (schemaText e d options).notes := by
  unfold schemaTexts at h ⊢
  rw [notes_each_ok h]
  refine List.flatMap_congr fun d hd => ?_
  obtain ⟨text, ht⟩ := (returns_bind_of_returns fun _ => returns_pure _).mp
    (returns_each.mp h d hd)
  rw [notes_bind_ok ht]
  exact List.append_nil _

theorem diagnostics_reported {α : Type} {m : Emission α} {p : α × List Diagnostic}
    (h : (reported m).outcome = .ok p) : p.2 = m.notes.map Loss.diagnostic := by
  unfold reported at h
  cases hm : m.outcome with
  | error f =>
    rw [hm] at h
    cases h
  | ok a =>
    rw [hm] at h
    cases h
    rfl

/-- What is found on an entity that compiles: the findings of the check, and
the losses of its schemas, of its relationships and, where no schema has
them, of its indexes. -/
theorem diagnostics_compileEntity {g : Generated}
    (h : (compileEntity c e stamp).outcome = .ok g) :
    g.diagnostics =
      (if c.validateFirst then diagnosticsOf (Check.entity e) else []) ++
      (schemaTexts e c.dialects (some c.variant)).notes.map Loss.diagnostic ++
      (relationships e (some c.variant)).notes.map Loss.diagnostic ++
      if c.dialects.contains .sql then []
      else (Sql.createIndexes e (some c.variant)).notes.map Loss.diagnostic := by
  obtain ⟨schemas, hs, h⟩ := outcome_bind_ok.mp h
  obtain ⟨links, hl, h⟩ := outcome_bind_ok.mp h
  obtain ⟨indexes, hi, h⟩ := outcome_bind_ok.mp h
  obtain ⟨m, hm, h⟩ := outcome_bind_ok.mp h
  cases h
  rw [← diagnostics_reported hs, ← diagnostics_reported hl, ← diagnostics_reported hi]

/-! ## Entities without warnings -/

/-- Every loss is a warning. -/
theorem warnings_losses (losses : List Loss) :
    Diagnostic.warnings (losses.map Loss.diagnostic) = losses.map Loss.diagnostic :=
  List.filter_eq_self.mpr fun d hd => by
    obtain ⟨l, _, rfl⟩ := List.mem_map.mp hd
    rfl

theorem warnings_append (a b : List Diagnostic) :
    Diagnostic.warnings (a ++ b) = Diagnostic.warnings a ++ Diagnostic.warnings b :=
  List.filter_append ..

/-- Whether an entity compiles without a warning. -/
def clear (c : Config) (stamp : Option Stamp) (e : Entity) : Bool :=
  match (compileEntity c e stamp).outcome with
  | .ok g => (Diagnostic.warnings g.diagnostics).isEmpty
  | .error _ => false

theorem clear_iff : clear c stamp e = true ↔
    ∃ g, (compileEntity c e stamp).outcome = .ok g ∧ Diagnostic.warnings g.diagnostics = [] := by
  unfold clear
  cases (compileEntity c e stamp).outcome <;> simp

/-- The relationships and the indexes of an entity without warnings lose
nothing, and where SQL is among the dialects its table does not either. -/
theorem notes_of_clear (h : clear c stamp e = true) :
    (relationships e (some c.variant)).notes = [] ∧
    (Sql.createIndexes e (some c.variant)).notes = [] ∧
    (.sql ∈ c.dialects → (Sql.createTable e.table (some c.variant)).notes = []) := by
  obtain ⟨g, hg, hnone⟩ := clear_iff.mp h
  have hschemas : (schemaTexts e c.dialects (some c.variant)).Returns :=
    ⟨_, (compileEntity_ok hg).1⟩
  rw [diagnostics_compileEntity hg, warnings_append, warnings_append, warnings_append,
    warnings_losses, warnings_losses] at hnone
  simp only [List.append_eq_nil_iff, List.map_eq_nil_iff] at hnone
  obtain ⟨⟨⟨_, htexts⟩, hlinks⟩, hindexes⟩ := hnone
  have hsql : .sql ∈ c.dialects → (schemaText e .sql (some c.variant)).notes = [] := by
    intro hd
    rw [notes_schemaTexts hschemas] at htexts
    exact List.flatMap_eq_nil_iff.mp htexts _ hd
  by_cases hd : Dialect.sql ∈ c.dialects
  · -- the schema in SQL has lost what the indexes lose
    have hreturns := (returns_bind_of_returns fun _ => returns_pure _).mp
      (returns_each.mp hschemas .sql hd)
    have hparts := hsql hd
    rw [notes_schemaText_sql hreturns, List.append_eq_nil_iff] at hparts
    exact ⟨hlinks, hparts.2, fun _ => hparts.1⟩
  · rw [if_neg (by simpa using hd), warnings_losses, List.map_eq_nil_iff] at hindexes
    exact ⟨hlinks, hindexes, fun h => absurd h hd⟩

/-- The warnings of the table of an entity in SQL. -/
def tableWarnings (c : Config) (e : Entity) : List Diagnostic :=
  (Sql.createTable e.table (some c.variant)).notes.map Loss.diagnostic

/-- The migration of an entity without warnings loses what its table
loses. -/
theorem notes_migrate_of_clear (h : clear c stamp e = true) {v : Option String}
    (hm : (migrate e v (some c.variant) stamp).Returns) :
    (migrate e v (some c.variant) stamp).notes.map Loss.diagnostic = tableWarnings c e := by
  obtain ⟨hlinks, hindexes, _⟩ := notes_of_clear h
  rw [notes_migrate hm, hlinks, hindexes, List.append_nil, List.append_nil, tableWarnings]

/-! ## The warnings of a batch -/

/-- Where warnings are failures, an entity that compiles without one is
kept and any other fails. -/
theorem compileOne_clear (hf : c.failOnWarnings = true) {r : Compiled}
    (h : (compileOne c stamp e).outcome = .ok r) :
    clear c stamp e = true ∧ (∃ g, r = .done e g) ∨
      clear c stamp e = false ∧ ∃ f, r = .failed f := by
  unfold compileOne at h
  unfold clear
  generalize compileEntity c e stamp = work at h ⊢
  obtain ⟨notes, outcome⟩ := work
  cases outcome with
  | ok g =>
    dsimp only at h ⊢
    cases hw : Diagnostic.warnings g.diagnostics with
    | nil =>
      rw [if_neg (by simp [hw])] at h
      cases h
      exact .inl ⟨rfl, g, rfl⟩
    | cons w ws =>
      rw [if_pos (by simp [hf, hw])] at h
      cases h
      exact .inr ⟨rfl, _, rfl⟩
  | error f =>
    cases f with
    | defect d =>
      cases h
      exact .inr ⟨rfl, _, rfl⟩
    | _ => cases h

theorem Resulted.clear (hf : c.failOnWarnings = true) {es : List Entity} {rs : List Compiled}
    (h : Resulted c stamp es rs) :
    (compiledIn rs).map Prod.fst = es.filter (Polyschema.clear c stamp) := by
  induction h with
  | nil => rfl
  | cons hr _ ih =>
    obtain ⟨hc, g, rfl⟩ | ⟨hc, f, rfl⟩ := compileOne_clear hf hr
    · rw [List.filter_cons_of_pos hc, ← ih]
      rfl
    · rw [List.filter_cons_of_neg (by simp [hc]), ← ih]
      rfl

/-- The warnings of a batch are the losses of the migrations that it is made
of. -/
theorem warnings_migrateAll {version : String} {es : List Entity} {b : Batch}
    (h : (migrateAll es version options stamp).outcome = .ok b) :
    b.warnings = (es.filter (compiles version options stamp)).flatMap fun e =>
      (migrate e (some version) options stamp).notes.map Loss.diagnostic := by
  obtain ⟨rs, hrs, rfl⟩ := migrateAll_ok_iff.mp h
  show (rs.flatMap Migrated.losses).map Loss.diagnostic = _
  clear h
  induction hrs with
  | nil => rfl
  | cons hr _ ih =>
    rw [List.flatMap_cons, List.map_append, ih]
    rcases migrateOne_ok_iff.mp hr with ⟨m, hm, rfl⟩ | ⟨d, hd, rfl⟩
    · rw [List.filter_cons_of_pos (by simp [compiles, hm, Except.isOk, Except.toBool])]
      rfl
    · rw [List.filter_cons_of_neg (by
        rw [compiles, hd]
        simp [Except.isOk, Except.toBool])]
      rfl

/-- Where warnings are failures, the entities that compile without one are
kept, and of their migrations only the tables can lose anything. So a batch
has no warnings where SQL is among the dialects, and otherwise exactly where
no table of such an entity loses anything in SQL. -/
theorem compileBatch_warnings (hf : c.failOnWarnings = true) {es : List Entity}
    {version : String} {now : Calendar.Timestamp} {r : Report}
    (h : (compileBatch c es version now).outcome = .ok r) :
    ∃ b, r.batch = some b ∧
      r.compiledEntities = (es.filter (clear c (c.stamp? now))).length ∧
      b.warnings = (es.filter (clear c (c.stamp? now))).flatMap (tableWarnings c) ∧
      (.sql ∈ c.dialects → b.warnings = []) ∧
      (b.warnings = [] ↔ ∀ e ∈ es, clear c (c.stamp? now) e = true →
        (Sql.createTable e.table (some c.variant)).notes = []) := by
  obtain ⟨rs, b, hrs, hb, hbatch, -, -, -, hcompiled, -⟩ := compileBatch_ok h
  have hkept := hrs.clear hf
  have hreturns : ∀ e ∈ (compiledIn rs).map Prod.fst,
      (migrate e (some version) (some c.variant) (c.stamp? now)).Returns := by
    intro e he
    obtain ⟨⟨e, g⟩, hp, rfl⟩ := List.mem_map.mp he
    exact returns_migrate_of_compileEntity ⟨g, (hrs.compiled hp).2⟩
  have hwarnings : b.warnings =
      (es.filter (clear c (c.stamp? now))).flatMap (tableWarnings c) := by
    rw [warnings_migrateAll hb, hrs.filter_compiles version, ← hkept]
    refine List.flatMap_congr fun e he => ?_
    have hclear : clear c (c.stamp? now) e = true := by
      rw [hkept] at he
      exact (List.mem_filter.mp he).2
    exact notes_migrate_of_clear hclear (hreturns e he)
  have hnone : b.warnings = [] ↔ ∀ e ∈ es, clear c (c.stamp? now) e = true →
      (Sql.createTable e.table (some c.variant)).notes = [] := by
    rw [hwarnings, List.flatMap_eq_nil_iff]
    simp only [List.mem_filter, and_imp, tableWarnings, List.map_eq_nil_iff]
  refine ⟨b, hbatch, ?_, hwarnings, fun hd => hnone.mpr fun e _ he => ?_, hnone⟩
  · rw [hcompiled, ← hkept, List.length_map]
  · exact (notes_of_clear he).2.2 hd

/-- Settings under which warnings are failures, for SQLite. -/
def Config.strict (dialects : List Dialect) : Config :=
  { Config.standard with dialects := dialects, variant := .sqlite, failOnWarnings := true }

/-- Orders with a key of which the values come from a source. -/
def sourcedOrders : Entity :=
  let id : Column := { Column.plain (.plain .uuid) with default := some .generator }
  .ofLinks { Table.ofKey "orders" (.plain .uuid) with columns := Keyed.empty.put "id" id } []

theorem compileBatch_warnings_plain :
    (Config.strict [.sql]).failOnWarnings = true ∧
    ∃ r b, (compileBatch (.strict [.sql])
        [.ofLinks (Table.ofKey "orders" (.plain .uuid)) []] "1" newYear).outcome = .ok r ∧
      r.batch = some b ∧ r.compiledEntities = 1 ∧ b.warnings = [] := by
  refine ⟨rfl, ?_⟩
  obtain ⟨r, hr⟩ : ∃ r, (compileBatch (.strict [.sql])
      [.ofLinks (Table.ofKey "orders" (.plain .uuid)) []] "1" newYear).outcome = .ok r :=
    ⟨_, rfl⟩
  obtain ⟨b, hb, hcompiled, _, hsql, _⟩ := compileBatch_warnings rfl hr
  exact ⟨r, b, hr, hb, hcompiled.trans rfl, hsql (List.mem_singleton.mpr rfl)⟩

/-- Drizzle has a call for such a default and SQLite has no expression. So
the entity is kept without a warning, and its migration loses the default. -/
theorem lost_default_survives :
    ∃ r b, (compileBatch (.strict [.drizzle]) [sourcedOrders] "1" newYear).outcome = .ok r ∧
      r.batch = some b ∧ r.failures = [] ∧ b.up.length = 1 ∧
      b.warnings = [(Loss.noExpression "id" "uuid" (.sql .sqlite)).diagnostic] := by
  refine ⟨_, _, rfl, rfl, rfl, rfl, rfl⟩

end Polyschema
