/-
Polyschema.Proofs.Stop — the defects that keep an entity from being
compiled.

* `fails_compileEntity_iff` — an entity fails as its schemas do, then as
  its relationships, then as its migration.
* `stops_compileEntity_iff` — it stops with the defect of one of these;
  of a migration only the table can have one that is left.
* `stops_or_raised`, `relationships_stop_or_raise` — that defect is one of
  the entity, or a function of the caller's own raises it.
* `defectIn?_sql_of_passes` — a table that passes in some dialect has no
  other defect in SQL than an undeclared key.
* `compileEntity_defect` — so an entity stops in the dialects that are
  asked for, or because its table declares no key, or such a function does.
-/
import Polyschema.Proofs.Compile
import Polyschema.Proofs.ForeignKey

namespace Polyschema

open Polyschema.Noted Polyschema.Emit

variable {c : Config} {e : Entity} {options : Option Variant} {stamp : Option Stamp}

/-! ## How a compilation fails -/

/-- The migration of an entity fails as its table does, or as its
relationships after that. -/
theorem fails_migrate_iff {v : Option String} {f : Fault} :
    (migrate e v options stamp).Fails f ↔ (Sql.createTable e.table options).Fails f ∨
      (Sql.createTable e.table options).Returns ∧ (relationships e options).Fails f := by
  have hindexes := returns_createIndexes e options
  unfold migrate
  refine fails_bind_const fun _ => ?_
  refine (fails_bind_const (P := (relationships e options).Fails f) fun _ =>
    fails_bind_of_returns fun _ => returns_pure _).trans ?_
  exact ⟨fun h => (h.resolve_left (not_fails_of_returns hindexes f)).2,
    fun h => .inr ⟨hindexes, h⟩⟩

/-- An entity fails as its schemas do, then as its relationships, then as
its migration. -/
theorem fails_compileEntity_iff {f : Fault} :
    (compileEntity c e stamp).Fails f ↔
      (schemaTexts e c.dialects (some c.variant)).Fails f ∨
      (schemaTexts e c.dialects (some c.variant)).Returns ∧
        ((relationships e (some c.variant)).Fails f ∨
        (relationships e (some c.variant)).Returns ∧
          (migrate e none (some c.variant) stamp).Fails f) := by
  have hindexes := returns_reported_iff.mpr (returns_createIndexes e (some c.variant))
  rw [← fails_reported_iff (m := schemaTexts e c.dialects (some c.variant)),
    ← returns_reported_iff (m := schemaTexts e c.dialects (some c.variant)),
    ← fails_reported_iff (m := relationships e (some c.variant)),
    ← returns_reported_iff (m := relationships e (some c.variant))]
  unfold compileEntity
  refine fails_bind_const fun _ => fails_bind_const fun _ => ?_
  refine (fails_bind_const (P := (migrate e none (some c.variant) stamp).Fails f)
    fun _ => ?_).trans ?_
  · exact fails_bind_of_returns fun _ =>
      (returns_bind_of_returns fun _ => returns_pure _).mpr ⟨(), rfl⟩
  · exact ⟨fun h => (h.resolve_left (not_fails_of_returns hindexes f)).2,
      fun h => .inr ⟨hindexes, h⟩⟩

/-- An entity stops as its schemas do, then as its relationships, then as its
table in SQL. -/
theorem stops_compileEntity_iff {x : Defect} :
    (compileEntity c e stamp).Stops x ↔
      (schemaTexts e c.dialects (some c.variant)).Stops x ∨
      (schemaTexts e c.dialects (some c.variant)).Returns ∧
        ((relationships e (some c.variant)).Stops x ∨
        (relationships e (some c.variant)).Returns ∧
          (Sql.createTable e.table (some c.variant)).Stops x) := by
  unfold Stops
  rw [fails_compileEntity_iff]
  refine or_congr_right (and_congr_right fun _ => or_congr_right (and_congr_right fun hlinks => ?_))
  rw [fails_migrate_iff]
  exact or_iff_left fun h => not_fails_of_returns hlinks _ h.2

/-! ## Defects of its own and of others -/

/-- A fault that leaves a function of the caller's own on the columns of an
entity. -/
def Entity.Raises (e : Entity) (f : Fault) : Prop :=
  e.table.Raises f ∨ ∃ r ∈ e.relationships, r.Raises (some e.table) f

/-- What fails as a table does stops with the defect of the table, or with
one that a function of the caller's own raises. -/
theorem stops_or_raised {α : Type} {m : Emission α} {t : Table} {d : Dialect}
    (h : ∀ f, m.Fails f ↔ (∃ x, t.defectIn? d = some x ∧ f = .defect x) ∨
      t.defectIn? d = none ∧ ColumnFails t d options f) {x : Defect} (hx : m.Stops x) :
    t.defectIn? d = some x ∨ t.Raises (.defect x) := by
  rcases (h _).mp hx with ⟨y, hy, heq⟩ | ⟨_, hcolumns⟩
  · cases heq
    exact .inl hy
  · exact .inr (hcolumns.misuse_or_raised.resolve_left (Fault.not_isMisuse_defect x))

/-- The schemas of an entity stop as the first of them that does. -/
theorem stops_schemaTexts {dialects : List Dialect} {x : Defect}
    (h : (schemaTexts e dialects options).Stops x) :
    ∃ d ∈ dialects, (schemaText e d options).Stops x := by
  obtain ⟨before, d, after, rfl, _, hd⟩ := fails_each.mp h
  exact ⟨d, by simp, (fails_bind_of_returns fun _ => returns_pure _).mp hd⟩

theorem schemaText_stops_or_raised {d : Dialect} {x : Defect}
    (h : (schemaText e d options).Stops x) :
    e.table.defectIn? d = some x ∨ e.table.Raises (.defect x) :=
  stops_or_raised (fun f => (fails_schemaText_iff e d options f).trans
    (fails_tableWith_iff e.table d options _ _ f)) h

/-- The relationships of an entity stop with the defect of one of them, or
with one that a function of the caller's own raises. -/
theorem relationships_stop_or_raise {x : Defect} (h : (relationships e options).Stops x) :
    ∃ r ∈ e.relationships, linkDefect? (some e.table) r = some x ∨
      r.Raises (some e.table) (.defect x) := by
  obtain ⟨before, r, after, hsplit, _, hr⟩ := fails_each.mp h
  refine ⟨r, by simp [hsplit], ?_⟩
  rcases (fails_relationship_iff r options (some e.table) _).mp hr with ⟨y, hy, heq⟩ | ⟨_, hj⟩
  · cases heq
    exact .inl hy
  · exact .inr (hj.misuse_or_raised.resolve_left (Fault.not_isMisuse_defect x))

/-! ## Tables and dialects -/

/-- A table that passes in some dialect has no other defect in SQL than an
undeclared key. -/
theorem Table.defectIn?_sql_of_passes {t : Table} {d : Dialect} (hd : t.defectIn? d = none)
    {x : Defect} (hx : t.defectIn? .sql = some x) :
    t.primaryKey = [] ∧ x = .noTableKey t.name := by
  obtain ⟨⟨key, hkey⟩, _⟩ := Table.defectIn?_eq_none_iff.mp hd
  by_cases hp : t.primaryKey = []
  · rw [Table.defectIn?_sql_of_empty hp] at hx
    exact ⟨hp, (Option.some.inj hx).symm⟩
  · rw [Table.defectIn?_eq_some_iff fun h => hp h.2, hkey] at hx
    cases hx

/-- An entity whose schemas are written passes in each of their
dialects. -/
theorem passes_of_schemaTexts {dialects : List Dialect} (hne : dialects ≠ [])
    (h : (schemaTexts e dialects options).Returns) : ∃ d, e.table.defectIn? d = none := by
  obtain ⟨d, hd⟩ := List.exists_mem_of_ne_nil dialects hne
  have htext := (returns_bind_of_returns fun _ => returns_pure _).mp (returns_each.mp h d hd)
  have htable := returns_iff_not_fails.mpr fun f hf =>
    not_fails_of_returns htext f ((fails_schemaText_iff e d options f).mpr hf)
  exact ⟨d, ((returns_tableWith_iff _ _ _ _ _).mp htable).1⟩

/-- The key of a table without errors resolves. -/
theorem keyable_of_valid (hvalid : Diagnostic.isValid (diagnosticsOf (Check.entity e)) = true) :
    e.table.Keyable := by
  have hsound := (isValid_diagnosticsOf _).mp hvalid
  unfold Check.entity at hsound
  simp only [sound_append] at hsound
  exact (Check.primaryKey_sound_iff e.table).mp hsound.1.1.2

/-- The table of an entity without errors has no defect but an undeclared
key, and that only in SQL. -/
theorem defectIn?_of_valid
    (hvalid : Diagnostic.isValid (diagnosticsOf (Check.entity e)) = true) {d : Dialect}
    {x : Defect} (hx : e.table.defectIn? d = some x) :
    d = .sql ∧ e.table.primaryKey = [] ∧ x = .noTableKey e.table.name := by
  have hkey : e.table.resolveKey = .ok e.table.statedKey :=
    Table.resolveKey_eq_ok_iff.mpr ⟨keyable_of_valid hvalid, rfl⟩
  by_cases hempty : d = .sql ∧ e.table.primaryKey = []
  · obtain ⟨rfl, hp⟩ := hempty
    rw [Table.defectIn?_sql_of_empty hp] at hx
    exact ⟨rfl, hp, (Option.some.inj hx).symm⟩
  · rw [Table.defectIn?_eq_some_iff hempty, hkey] at hx
    cases hx

/-! ## The defect of an entity -/

/-- An entity without errors stops with no other defect than an undeclared
key, unless a function of the caller's own raises one. -/
theorem stops_compileEntity_of_valid
    (hvalid : Diagnostic.isValid (diagnosticsOf (Check.entity e)) = true) {x : Defect}
    (hx : (compileEntity c e stamp).Stops x) :
    e.table.primaryKey = [] ∧ x = .noTableKey e.table.name ∨ e.Raises (.defect x) := by
  have htable {d : Dialect} (h : e.table.defectIn? d = some x ∨ e.table.Raises (.defect x)) :
      e.table.primaryKey = [] ∧ x = .noTableKey e.table.name ∨ e.Raises (.defect x) :=
    h.imp (fun hd => (defectIn?_of_valid hvalid hd).2) .inl
  rcases stops_compileEntity_iff.mp hx with hschemas | ⟨_, hlinks | ⟨_, hsql⟩⟩
  · obtain ⟨d, _, hd⟩ := stops_schemaTexts hschemas
    exact htable (schemaText_stops_or_raised hd)
  · obtain ⟨r, hr, hd | hraised⟩ := relationships_stop_or_raise hlinks
    · rw [linkDefect?_of_valid hvalid hr] at hd
      cases hd
    · exact .inr (.inr ⟨r, hr, hraised⟩)
  · exact htable (stops_or_raised (fails_createTable_iff e.table _) hsql)

/-- An entity stops only where its schema does in a dialect that is asked
for, where its relationships do, or where its table does in SQL, which its
migration needs in any dialects: because it declares no key, or because a
function that came with one of its columns raises a defect. An entity whose
table declares no key is never compiled; and if no error is found on an
entity and no such function raises a defect, this is the only one with which
it can stop. Settings are read with one dialect at least. -/
theorem compileEntity_defect (hc : c.dialects ≠ []) (e : Entity) (stamp : Option Stamp) :
    (∀ x, (compileEntity c e stamp).Stops x →
      (∃ d ∈ c.dialects, (schemaText e d (some c.variant)).Stops x) ∨
      (relationships e (some c.variant)).Stops x ∨
      e.table.primaryKey = [] ∧ x = .noTableKey e.table.name ∨
      e.table.Raises (.defect x)) ∧
    (e.table.primaryKey = [] → ¬ (compileEntity c e stamp).Returns) ∧
    (Diagnostic.isValid (diagnosticsOf (Check.entity e)) = true →
      ∀ x, (compileEntity c e stamp).Stops x →
        e.table.primaryKey = [] ∧ x = .noTableKey e.table.name ∨ e.Raises (.defect x)) := by
  refine ⟨fun x hx => ?_, fun hp hreturns => ?_,
    fun hvalid x => stops_compileEntity_of_valid hvalid⟩
  · rcases stops_compileEntity_iff.mp hx with hschemas | ⟨hschemas, hlinks | ⟨_, hsql⟩⟩
    · exact .inl (stops_schemaTexts hschemas)
    · exact .inr (.inl hlinks)
    · obtain ⟨d, hd⟩ := passes_of_schemaTexts hc hschemas
      exact .inr (.inr ((stops_or_raised (fails_createTable_iff e.table _) hsql).imp_left
        (Table.defectIn?_sql_of_passes hd)))
  · -- what is compiled has a migration, and that a table
    have hmigration : (migrate e none (some c.variant) stamp).Returns :=
      returns_migrate_of_compileEntity hreturns
    have htable := (returns_migrate_iff.mp hmigration).1
    refine not_fails_of_returns htable (.defect (.noTableKey e.table.name)) ?_
    exact (fails_createTable_iff e.table _ _).mpr
      (.inl ⟨_, Table.defectIn?_sql_of_empty hp, rfl⟩)

/-- Orders whose key is flagged at its column, and declared by the table or
not. -/
def Entity.ofFlaggedKey (declared : List String) : Entity :=
  let id : Column := { Column.plain (.plain .uuid) with primary := true }
  .ofLinks { Table.ofKey "orders" (.plain .uuid) with
    columns := Keyed.empty.put "id" id
    primaryKey := declared } []

/-- A key that is flagged and declared keeps nothing from being
compiled. -/
theorem compileEntity_defect_of_declared :
    Config.standard.dialects ≠ [] ∧
    Diagnostic.isValid (diagnosticsOf (Check.entity (.ofFlaggedKey ["id"]))) = true ∧
    ∀ x, ¬ (compileEntity .standard (.ofFlaggedKey ["id"]) none).Stops x := by
  have hc : Config.standard.dialects ≠ [] := by decide
  have hvalid : Diagnostic.isValid (diagnosticsOf (Check.entity (.ofFlaggedKey ["id"]))) =
      true := by decide +kernel
  refine ⟨hc, hvalid, fun x hx => ?_⟩
  have hraises : ¬ (Entity.ofFlaggedKey ["id"]).Raises (.defect x) := by
    rintro (⟨entry, hentry, h⟩ | ⟨r, hr, _⟩)
    · obtain rfl := List.mem_singleton.mp hentry
      exact h
    · cases hr
  obtain ⟨hp, _⟩ :=
    ((compileEntity_defect hc (.ofFlaggedKey ["id"]) none).2.2 hvalid x hx).resolve_right hraises
  cases hp

/-- A key that is only flagged: no error is found, the one dialect that is
asked for writes the table, and there are no relationships. The migration
needs a declared key nevertheless. -/
theorem flagged_key_not_compiled :
    let c := { Config.standard with dialects := [.drizzle] }
    let e := Entity.ofFlaggedKey []
    Diagnostic.isValid (diagnosticsOf (Check.entity e)) = true ∧
    e.table.primaryKey = [] ∧ e.table.flagged = ["id"] ∧
    (∀ d ∈ c.dialects, (schemaText e d (some c.variant)).Returns) ∧
    (relationships e (some c.variant)).Returns ∧
    (compileEntity c e none).Stops (.noTableKey "orders") := by
  refine ⟨by decide +kernel, rfl, rfl, fun d hd => ?_, ⟨_, rfl⟩, rfl⟩
  obtain rfl := List.mem_singleton.mp hd
  exact ⟨_, rfl⟩

end Polyschema
