/-
Polyschema.Proofs.Compile — what can keep a compilation from its report.

* `Entity.written` — the columns of an entity that are written before a
  defect ends its compilation.
* `escapes_compileEntity_iff` — for an entity of registered columns, a
  fault escapes exactly where one of these has a default that its type
  does not settle.
* `returns_compileBatch_iff`, `compileBatch_accounts` — a batch comes to
  a report where no fault escapes from an entity, and the report has a
  schema or a failure for each.
* `read_compileBatch` — both for the entities of a document.
-/
import Polyschema.Compile.Batch
import Polyschema.Proofs.Document
import Polyschema.Proofs.Migration

namespace Polyschema

open Polyschema.Noted Polyschema.Emit

/-! ## The columns that are written -/

/-- The further columns that a relationship is written with. -/
def Relationship.extraColumns (r : Relationship) : List Column :=
  match r.relation, r.junction with
  | .known .manyToMany, some j => j.extras.entries.map Prod.snd
  | _, _ => []

namespace Entity

/-- The columns of the table of an entity. -/
def columns (e : Entity) : List Column := e.table.columns.entries.map Prod.snd

/-- Whether the table of an entity has no defect in a dialect. -/
def passes (e : Entity) (d : Dialect) : Bool := (e.table.defectIn? d).isNone

/-- Whether a relationship of an entity has no defect. -/
def links (e : Entity) (r : Relationship) : Bool := (linkDefect? (some e.table) r).isNone

/-- The columns that are written with their defaults when an entity is
compiled: those of its table in each dialect up to the first in which it
has a defect, but for Convex, which has no defaults; then those of its
junctions up to the first relationship with a defect; then, for the
migration, those of its table once more. -/
def written (c : Config) (e : Entity) : List Column :=
  ((c.dialects.takeWhile e.passes).filter (· ≠ .convex)).flatMap (fun _ => e.columns) ++
    if c.dialects.all e.passes then
      (e.relationships.takeWhile e.links).flatMap Relationship.extraColumns ++
        if e.relationships.all e.links ∧ e.passes .sql then e.columns else []
    else []

theorem mem_written_iff {c : Config} {e : Entity} {col : Column} :
    col ∈ e.written c ↔
      (∃ d ∈ c.dialects.takeWhile e.passes, d ≠ .convex) ∧ col ∈ e.columns ∨
      c.dialects.all e.passes = true ∧
        ((∃ r ∈ e.relationships.takeWhile e.links, col ∈ r.extraColumns) ∨
        (e.relationships.all e.links = true ∧ e.passes .sql = true) ∧ col ∈ e.columns) := by
  unfold written
  rw [List.mem_append, List.mem_flatMap, List.mem_ite_nil_right, List.mem_append,
    List.mem_flatMap, List.mem_ite_nil_right]
  refine or_congr_left ⟨?_, ?_⟩
  · rintro ⟨d, hd, hcol⟩
    obtain ⟨hd, hc⟩ := List.mem_filter.mp hd
    exact ⟨⟨d, hd, of_decide_eq_true hc⟩, hcol⟩
  · rintro ⟨⟨d, hd, hc⟩, hcol⟩
    exact ⟨d, List.mem_filter.mpr ⟨hd, decide_eq_true hc⟩, hcol⟩

/-- Without relationships, only the columns of the table are written. -/
theorem mem_columns_of_written {c : Config} {e : Entity} {col : Column}
    (he : e.relationships = []) (h : col ∈ e.written c) : col ∈ e.columns := by
  obtain ⟨_, h⟩ | ⟨_, ⟨r, hr, _⟩ | ⟨_, h⟩⟩ := mem_written_iff.mp h
  · exact h
  · rw [he] at hr
    cases hr
  · exact h

end Entity

/-! ## Tables and relationships of registered columns -/

section

variable {e : Entity} (he : e.Registered)
include he

/-- No function of the caller's own is on the columns of its table. -/
theorem Entity.Registered.avoids : e.table.Avoids Fault.IsDefect :=
  fun f hf => absurd hf (he.table.not_raises f)

/-- The columns of a table let a fault escape through an unsettled
default. -/
theorem columnEscapes_iff (d : Dialect) (options : Option Variant) :
    ColumnEscapes e.table d options ↔ (∃ key, e.table.resolveKey = .ok key) ∧
      d ≠ .convex ∧ ∃ col ∈ e.columns, ¬ col.Settled := by
  have hcol : ∀ key, ∀ x ∈ e.table.columns.entries,
      (columnIn d key options x.1 x.2).Escapes ↔ d ≠ .convex ∧ ¬ x.2.Settled := by
    intro key x hx
    have hstops := not_stops_of_failsIn (failsIn_entry hx d key options) fun f =>
      Fault.not_of_avoids Fault.not_isDefect_misuse he.avoids
    rw [escapes_iff_not_returns hstops, returns_columnIn_iff (he.table x hx), not_or]
  unfold ColumnEscapes Entity.columns
  constructor
  · rintro ⟨key, hkey, x, hx, hesc⟩
    obtain ⟨hd, hs⟩ := (hcol key x hx).mp hesc
    exact ⟨⟨key, hkey⟩, hd, x.2, List.mem_map_of_mem hx, hs⟩
  · rintro ⟨⟨key, hkey⟩, hd, col, hcol', hs⟩
    obtain ⟨x, hx, rfl⟩ := List.mem_map.mp hcol'
    exact ⟨key, hkey, x, hx, (hcol key x hx).mpr ⟨hd, hs⟩⟩

theorem escapes_createTable_registered (options : Option Variant) :
    (Sql.createTable e.table options).Escapes ↔
      e.passes .sql = true ∧ ∃ col ∈ e.columns, ¬ col.Settled := by
  rw [escapes_iff_of_fails he.avoids (fails_createTable_iff e.table options),
    columnEscapes_iff he, Entity.passes, Option.isNone_iff_eq_none]
  refine and_congr_right fun h => ?_
  simp [(Table.defectIn?_eq_none_iff.mp h).1]

omit he in
/-- The schema of an entity ends as its table does. -/
theorem fails_schemaText_iff (e : Entity) (d : Dialect) (options : Option Variant)
    (f : Fault) :
    (schemaText e d options).Fails f ↔
      (tableWith e.table d options e.allIndexes (some (Text.pascal e.name.singular))).Fails f := by
  cases d with
  | sql =>
    exact (fails_bind_of_returns fun _ => (returns_bind_of_returns fun _ => returns_pure _).mpr
      (returns_createIndexes e options)).trans
      (fails_bind_of_returns fun _ => returns_pure _).symm
  | _ => exact Iff.rfl

theorem escapes_schemaText_iff (d : Dialect) (options : Option Variant) :
    (schemaText e d options).Escapes ↔ e.passes d = true ∧ d ≠ .convex ∧
      ∃ col ∈ e.columns, ¬ col.Settled := by
  have h := escapes_tableWith_iff he.avoids d options e.allIndexes
    (some (Text.pascal e.name.singular))
  rw [columnEscapes_iff he] at h
  simp only [Escapes, fails_schemaText_iff]
  refine h.trans ?_
  rw [Entity.passes, Option.isNone_iff_eq_none]
  refine and_congr_right fun hd => ?_
  simp [(Table.defectIn?_eq_none_iff.mp hd).1]

omit he in
theorem stops_schemaText_iff (ht : e.table.Avoids Fault.IsDefect) (d : Dialect)
    (options : Option Variant) (x : Defect) :
    (schemaText e d options).Stops x ↔ e.table.defectIn? d = some x :=
  (fails_schemaText_iff e d options _).trans (stops_tableWith_iff ht d options _ _ x)

omit he in
/-- The schemas of an entity stop in the dialects in which its table has
a defect. -/
theorem stops_schemaTexts_item (ht : e.table.Avoids Fault.IsDefect) (options : Option Variant)
    (d : Dialect) (x : Defect) :
    (do pure (d, ← schemaText e d options) : Emission (Dialect × String)).Stops x ↔
      e.table.defectIn? d = some x :=
  (fails_bind_of_returns fun _ => returns_pure _).trans (stops_schemaText_iff ht d options x)

theorem escapes_schemaTexts_iff (dialects : List Dialect) (options : Option Variant) :
    (schemaTexts e dialects options).Escapes ↔
      (∃ d ∈ dialects.takeWhile e.passes, d ≠ .convex) ∧
        ∃ col ∈ e.columns, ¬ col.Settled := by
  refine (escapes_each_iff (fun d => e.table.defectIn? d) fun d _ =>
    stops_schemaTexts_item he.avoids options d).trans ?_
  simp only [escapes_bind_of_returns fun _ => returns_pure _, escapes_schemaText_iff he]
  constructor
  · rintro ⟨d, hd, _, hc, h⟩
    exact ⟨⟨d, hd, hc⟩, h⟩
  · rintro ⟨⟨d, hd, hc⟩, h⟩
    exact ⟨d, hd, List.mem_takeWhile_imp (p := e.passes) hd, hc, h⟩

theorem returns_schemaTexts_iff (dialects : List Dialect) (options : Option Variant) :
    (schemaTexts e dialects options).Returns ↔ dialects.all e.passes = true ∧
      ¬ (schemaTexts e dialects options).Escapes := by
  refine (returns_each_iff_of_stops (fun d => e.table.defectIn? d) fun d _ =>
    stops_schemaTexts_item he.avoids options d).trans ?_
  simp [schemaTexts, Entity.passes]

/-- The junction of a relationship of such an entity can be written
where its further columns have settled defaults. -/
theorem junctionRenders_registered {r : Relationship} (hr : r ∈ e.relationships)
    (options : Option Variant) :
    JunctionRenders r options (some e.table) ↔ ∀ col ∈ r.extraColumns, col.Settled := by
  rw [junctionRenders_iff (he.links r hr) he.table]
  unfold Relationship.extraColumns
  split
  next j hm hj =>
    rw [List.forall_mem_map]
    exact ⟨fun h => h j hm hj, fun h i _ hi => by
      rw [hj] at hi
      cases hi
      exact h⟩
  next hnot =>
    exact ⟨fun _ col hcol => (List.not_mem_nil hcol).elim,
      fun _ j hm hj => absurd hj (hnot j hm)⟩

/-- No junction of such an entity stops. -/
theorem not_stops_junction_registered {r : Relationship} (hr : r ∈ e.relationships)
    (options : Option Variant) (d : Defect) :
    ¬ JunctionFails r options (some e.table) (.defect d) :=
  not_stops_junction (fun f hf => absurd hf ((he.links r hr).not_raises he.table f)) options d

theorem escapes_relationships_registered (options : Option Variant) :
    (relationships e options).Escapes ↔ ∃ r ∈ e.relationships.takeWhile e.links,
      ∃ col ∈ r.extraColumns, ¬ col.Settled := by
  refine (escapes_relationships_iff fun r hr =>
    not_stops_junction_registered he hr options).trans ?_
  refine exists_congr fun r => and_congr_right fun hr => ?_
  rw [junctionRenders_registered he ((List.takeWhile_sublist _).subset hr)]
  simp

theorem returns_relationships_escapes (options : Option Variant) :
    (relationships e options).Returns ↔ e.relationships.all e.links = true ∧
      ¬ (relationships e options).Escapes := by
  refine (returns_each_iff_of_stops (linkDefect? (some e.table)) fun r hr =>
    stops_relationship_iff (not_stops_junction_registered he hr options)).trans ?_
  simp [relationships, Entity.links]

/-! ## The compilation of an entity -/

omit he in
theorem fails_reported_iff {α : Type} {m : Emission α} {f : Fault} :
    (reported m).Fails f ↔ m.Fails f := by
  unfold reported Fails
  cases m.outcome <;> simp [Except.map]

omit he in
theorem escapes_reported_iff {α : Type} {m : Emission α} :
    (reported m).Escapes ↔ m.Escapes := by
  simp only [Escapes, fails_reported_iff]

omit he in
theorem returns_reported_iff {α : Type} {m : Emission α} :
    (reported m).Returns ↔ m.Returns := by
  unfold reported Returns
  cases m.outcome <;> simp [Except.map]

omit he in
/-- A fault escapes from an entity through its schemas, then through its
relationships, then through its migration. -/
theorem escapes_compileEntity_split (c : Config) (e : Entity) (stamp : Option Stamp) :
    (compileEntity c e stamp).Escapes ↔
      (schemaTexts e c.dialects (some c.variant)).Escapes ∨
      (schemaTexts e c.dialects (some c.variant)).Returns ∧
        ((relationships e (some c.variant)).Escapes ∨
        (relationships e (some c.variant)).Returns ∧
          (migrate e none (some c.variant) stamp).Escapes) := by
  have hindexes := returns_createIndexes e (some c.variant)
  rw [← escapes_reported_iff (m := schemaTexts e c.dialects (some c.variant)),
    ← returns_reported_iff (m := schemaTexts e c.dialects (some c.variant)),
    ← escapes_reported_iff (m := relationships e (some c.variant)),
    ← returns_reported_iff (m := relationships e (some c.variant))]
  unfold compileEntity
  refine escapes_bind_const fun schemas => escapes_bind_const fun links => ?_
  have hreported := returns_reported_iff.mpr hindexes
  refine (escapes_bind_const (P := (migrate e none (some c.variant) stamp).Escapes)
    fun indexes => ?_).trans ?_
  · exact escapes_bind_of_returns fun _ =>
      (returns_bind_of_returns fun _ => returns_pure _).mpr ⟨(), rfl⟩
  · exact ⟨fun h => (h.resolve_left (not_escapes_of_returns hreported)).2,
      fun h => .inr ⟨hreported, h⟩⟩

/-- For an entity of registered columns, a fault escapes where a column
that is written has a default that its type does not settle. -/
theorem escapes_compileEntity_iff (c : Config) (stamp : Option Stamp) :
    (compileEntity c e stamp).Escapes ↔ ∃ col ∈ e.written c, ¬ col.Settled := by
  simp only [Entity.mem_written_iff]
  have htexts := escapes_schemaTexts_iff he c.dialects (some c.variant)
  have hlinks := escapes_relationships_registered he (some c.variant)
  rw [escapes_compileEntity_split, escapes_migrate_iff, returns_schemaTexts_iff he,
    returns_relationships_escapes he, escapes_createTable_registered he]
  constructor
  · rintro (h | ⟨⟨hp, _⟩, h | ⟨⟨hl, hno⟩, ⟨hs, col, hcol, hu⟩ | ⟨_, h⟩⟩⟩)
    · obtain ⟨hd, col, hcol, hu⟩ := htexts.mp h
      exact ⟨col, .inl ⟨hd, hcol⟩, hu⟩
    · obtain ⟨r, hr, col, hcol, hu⟩ := hlinks.mp h
      exact ⟨col, .inr ⟨hp, .inl ⟨r, hr, hcol⟩⟩, hu⟩
    · exact ⟨col, .inr ⟨hp, .inr ⟨⟨hl, hs⟩, hcol⟩⟩, hu⟩
    · exact absurd h hno
  · rintro ⟨col, h, hu⟩
    -- what comes later only counts where nothing has escaped before
    by_cases ht : (schemaTexts e c.dialects (some c.variant)).Escapes
    · exact .inl ht
    by_cases hr : (relationships e (some c.variant)).Escapes
    · obtain ⟨hd, hcol⟩ | ⟨hp, _⟩ := h
      · exact absurd (htexts.mpr ⟨hd, col, hcol, hu⟩) ht
      · exact .inr ⟨⟨hp, ht⟩, .inl hr⟩
    · obtain ⟨hd, hcol⟩ | ⟨hp, ⟨r, hmem, hcol⟩ | ⟨⟨hl, hs⟩, hcol⟩⟩ := h
      · exact absurd (htexts.mpr ⟨hd, col, hcol, hu⟩) ht
      · exact absurd (hlinks.mpr ⟨r, hmem, col, hcol, hu⟩) hr
      · exact .inr ⟨⟨hp, ht⟩, .inr ⟨⟨hl, hr⟩, .inl ⟨hs, col, hcol, hu⟩⟩⟩

end

/-! ## The report of a batch -/

/-- What is reported of one entity: what was emitted for it, or a failure
under its id. -/
theorem compileOne_ok {c : Config} {stamp : Option Stamp} {e : Entity} {r : Compiled}
    (h : (compileOne c stamp e).outcome = .ok r) :
    (∃ g, r = .done e g ∧ (compileEntity c e stamp).outcome = .ok g) ∨
      ∃ f, r = .failed f ∧ f.entity = e.id := by
  unfold compileOne at h
  generalize compileEntity c e stamp = work at h ⊢
  obtain ⟨notes, outcome⟩ := work
  cases outcome with
  | ok g =>
    dsimp only at h
    split at h
    · cases h; exact .inr ⟨_, rfl, rfl⟩
    · cases h; exact .inl ⟨g, rfl, rfl⟩
  | error f =>
    cases f with
    | defect d => cases h; exact .inr ⟨_, rfl, rfl⟩
    | _ => cases h

/-- An entity is reported unless a fault escapes from it. -/
theorem returns_compileOne_iff {c : Config} {stamp : Option Stamp} {e : Entity} :
    (compileOne c stamp e).Returns ↔ ¬ (compileEntity c e stamp).Escapes := by
  unfold compileOne Returns Escapes Fails
  obtain ⟨notes, outcome⟩ := compileEntity c e stamp
  cases outcome with
  | ok g =>
    dsimp only
    split <;> simp
  | error f => cases f <;> simp [Fault.defect?]

/-- An entity that compiled can be migrated under any version. -/
theorem returns_migrate_of_compileEntity {c : Config} {e : Entity} {stamp : Option Stamp}
    (h : (compileEntity c e stamp).Returns) {version : Option String} :
    (migrate e version (some c.variant) stamp).Returns := by
  obtain ⟨_, _, h⟩ := returns_bind.mp h
  obtain ⟨_, _, h⟩ := returns_bind.mp h
  obtain ⟨_, _, h⟩ := returns_bind.mp h
  obtain ⟨m, hm, _⟩ := returns_bind.mp h
  exact returns_migrate_iff.mpr (returns_migrate_iff.mp ⟨m, hm⟩)

theorem returns_migrateAll_compiled {c : Config} {stamp : Option Stamp} {es : List Entity}
    {results : List Compiled}
    (h : List.Forall₂ (fun e r => (compileOne c stamp e).outcome = .ok r) es results)
    (version : String) :
    (migrateAll ((results.filterMap Compiled.done?).map Prod.fst) version (some c.variant)
      stamp).Returns := by
  refine returns_migrateAll fun e he => not_escapes_of_returns ?_
  obtain ⟨p, hp, rfl⟩ := List.mem_map.mp he
  obtain ⟨r, hr, hdone⟩ := List.mem_filterMap.mp hp
  obtain ⟨e', _, ho⟩ := exists_of_mem_forall₂ h hr
  obtain ⟨g, rfl, hg⟩ | ⟨f, rfl, _⟩ := compileOne_ok ho
  · cases hdone
    exact returns_migrate_of_compileEntity ⟨g, hg⟩
  · cases hdone

theorem returns_checkStep (c : Config) (es : List Entity) : (checkStep c es).Returns := by
  unfold checkStep
  split
  · exact ⟨_, rfl⟩
  · exact returns_pure _

/-- A batch comes to a report unless a fault escapes from one of its
entities. -/
theorem returns_compileBatch_iff (c : Config) (es : List Entity) (version : String)
    (now : Calendar.Timestamp) :
    (compileBatch c es version now).Returns ↔
      ∀ e ∈ es, ¬ (compileEntity c e (c.stamp? now)).Escapes := by
  obtain ⟨checked, hchecked⟩ := returns_checkStep c es
  have heach : (each (compileOne c (c.stamp? now)) es).Returns ↔
      ∀ e ∈ es, ¬ (compileEntity c e (c.stamp? now)).Escapes :=
    returns_each.trans (forall₂_congr fun e _ => returns_compileOne_iff)
  rw [← heach]
  unfold compileBatch
  constructor
  · intro h
    obtain ⟨_, _, h⟩ := returns_bind.mp h
    obtain ⟨results, hr, _⟩ := returns_bind.mp h
    exact ⟨results, hr⟩
  · rintro ⟨results, hr⟩
    exact returns_bind.mpr ⟨checked, hchecked, returns_bind.mpr ⟨results, hr,
      (returns_bind_of_returns fun _ => returns_pure _).mpr
        (returns_migrateAll_compiled (outcome_each_iff.mp hr) version)⟩⟩

/-- A report has a schema or a failure for each entity. -/
theorem compileBatch_accounts {c : Config} {es : List Entity} {version : String}
    {now : Calendar.Timestamp} {report : Report}
    (h : (compileBatch c es version now).outcome = .ok report) :
    ∀ e ∈ es, e.id ∈ report.schemas.names ∨ ∃ f ∈ report.failures, f.entity = e.id := by
  obtain ⟨_, _, h⟩ := outcome_bind_ok.mp h
  obtain ⟨results, hr, h⟩ := outcome_bind_ok.mp h
  obtain ⟨batch, _, h⟩ := outcome_bind_ok.mp h
  cases h
  intro e he
  obtain ⟨r, hmem, ho⟩ := exists_of_mem_forall₂ (outcome_each_iff.mp hr).flip he
  obtain ⟨g, rfl, _⟩ | ⟨f, rfl, hf⟩ := compileOne_ok ho
  · have hdone : (e, g) ∈ results.filterMap Compiled.done? :=
      List.mem_filterMap.mpr ⟨_, hmem, rfl⟩
    exact .inl (Keyed.mem_names_ofList (List.mem_map_of_mem hdone))
  · have hfailed : f ∈ results.filterMap Compiled.failure? :=
      List.mem_filterMap.mpr ⟨_, hmem, rfl⟩
    exact .inr ⟨f, List.mem_append_left _ hfailed, hf⟩

/-- The entities of a document come to a report exactly where the type of
each column that is written settles its default, and the report has a
schema or a failure for each of them. -/
theorem read_compileBatch {raw : Part} {es : List Entity} {settings : Config}
    (h : (Document.read raw).outcome = .ok (es, settings)) (c : Config) (version : String)
    (now : Calendar.Timestamp) :
    ((compileBatch c es version now).Returns ↔
      ∀ e ∈ es, ∀ col ∈ e.written c, col.Settled) ∧
    ∀ report, (compileBatch c es version now).outcome = .ok report →
      ∀ e ∈ es, e.id ∈ report.schemas.names ∨ ∃ f ∈ report.failures, f.entity = e.id := by
  refine ⟨?_, fun report hreport => compileBatch_accounts hreport⟩
  rw [returns_compileBatch_iff]
  refine forall₂_congr fun e he => ?_
  rw [escapes_compileEntity_iff (Document.read_registered h e he)]
  simp

/-! ## A document with a price -/

/-- A document of one entity with a key and a price of four digits. -/
def pricedDocument (price : Value) : Part :=
  .data <| .record [("entities", .list [.record [("id", .str "item"),
    ("columns", .record [
      ("id", .record [("type", .str "uuid"), ("primary", .bool true)]),
      ("price", .record [("type", .str "decimal"), ("precision", .int 4), ("scale", .int 2),
        ("default", price)])])]])]

theorem read_compileBatch_priced :
    ∃ es settings, (Document.read (pricedDocument (.str "9.99"))).outcome =
        .ok (es, settings) ∧
      ∀ now, (compileBatch settings es "1" now).Returns := by
  have h : (Document.read (pricedDocument (.str "9.99"))).outcome = .ok (_, _) := rfl
  refine ⟨_, _, h, fun now => (read_compileBatch h _ "1" now).1.mpr ?_⟩
  intro e he col hcol v hv
  obtain rfl := List.mem_singleton.mp he
  obtain rfl | hmem := List.mem_cons.mp (Entity.mem_columns_of_written rfl hcol)
  · cases hv
  · obtain rfl := List.mem_singleton.mp hmem
    cases hv
    exact .inr (.inl rfl)

/-- A price of more digits than its column holds is no defect of the
schema. But it cannot be written either, and there is no report. -/
theorem unsettled_price_escapes :
    ∃ es settings, (Document.read (pricedDocument (.str "1000"))).outcome =
        .ok (es, settings) ∧
      ∀ now, (compileBatch settings es "1" now).outcome = .error (.misuse .wrongKind) :=
  ⟨_, _, rfl, fun _ => rfl⟩

end Polyschema
