/-
Polyschema.Proofs.Migration — migrations of many entities.

* `migrate_eq_ok`, `migrate_ok` — what the migration of an entity is made
  of; it is of the table of the entity.
* `migrateOne_ok_iff` — what becomes of one entity: its migration with
  all its losses, or the failure of its defect and nothing else.
* `migrateAll_ok_iff` — a batch is what became of each entity in turn.
* `migrateAll_append` — so batches are put together like lists, and
  their scripts are those of the entities that compile.
-/
import Polyschema.Migration
import Polyschema.Proofs.Linkage

namespace Polyschema

open Polyschema.Noted Polyschema.Emit

variable {version : String} {options : Option Variant} {stamp : Option Stamp}

/-! ## One entity -/

/-- Indexes can always be written. -/
theorem returns_createIndexes (e : Entity) (options : Option Variant) :
    (Sql.createIndexes e options).Returns :=
  returns_each.mpr fun _ _ => ⟨_, rfl⟩

/-- The statement that creates a table is named after it. -/
theorem createTable_name {t : Table} {s : Sql.CreateTable}
    (h : (Sql.createTable t options).outcome = .ok s) : s.name = t.name := by
  by_cases hp : t.primaryKey = []
  · rw [createTable_of_undeclared hp] at h
    cases h
  · rw [createTable_of_declared hp] at h
    obtain ⟨_, _, h⟩ := outcome_bind_ok.mp h
    obtain ⟨_, _, h⟩ := outcome_bind_ok.mp h
    cases h
    rfl

/-- What the migration of an entity is made of. -/
structure MigrationOf (e : Entity) (v : Option String) (options : Option Variant)
    (stamp : Option Stamp) (m : Migration) : Prop where
  entity : m.entity = e.id
  version : m.version = v.getD e.version
  description : m.description =
    (e.description.filter (· != "")).getD (defaultDescription e)
  stamp : m.stamp = stamp
  table : (Sql.createTable e.table options).outcome = .ok m.table
  indexes : (Sql.createIndexes e options).outcome = .ok m.indexes
  constraints : m.constraints = Sql.addConstraints e
  links : (relationships e options).outcome = .ok m.links

theorem migrate_eq_ok {e : Entity} {v : Option String} {m : Migration} :
    (migrate e v options stamp).outcome = .ok m ↔ MigrationOf e v options stamp m := by
  constructor
  · intro h
    obtain ⟨table, ht, h⟩ := outcome_bind_ok.mp h
    obtain ⟨indexes, hi, h⟩ := outcome_bind_ok.mp h
    obtain ⟨links, hl, h⟩ := outcome_bind_ok.mp h
    cases h
    exact ⟨rfl, rfl, rfl, rfl, ht, hi, rfl, hl⟩
  · intro h
    refine outcome_bind_ok.mpr ⟨_, h.table, outcome_bind_ok.mpr ⟨_, h.indexes,
      outcome_bind_ok.mpr ⟨_, h.links, ?_⟩⟩⟩
    rw [← h.entity, ← h.version, ← h.description, ← h.stamp, ← h.constraints]
    rfl

/-- The migration of an entity is of its table. -/
theorem migrate_ok {e : Entity} {v : Option String} {m : Migration}
    (h : (migrate e v options stamp).outcome = .ok m) : m.table.name = e.table.name :=
  createTable_name (migrate_eq_ok.mp h).table

/-- An entity has a migration where its table and its relationships can
be written. -/
theorem returns_migrate_iff {e : Entity} {v : Option String} :
    (migrate e v options stamp).Returns ↔
      (Sql.createTable e.table options).Returns ∧ (relationships e options).Returns := by
  obtain ⟨indexes, hi⟩ := returns_createIndexes e options
  unfold migrate
  simp only [returns_bind (k := fun _ => (_ >>= _ : Emission _)), hi,
    returns_bind_of_returns fun _ => returns_pure _]
  exact ⟨fun ⟨t, ht, _, _, hl⟩ => ⟨⟨t, ht⟩, hl⟩,
    fun ⟨⟨t, ht⟩, hl⟩ => ⟨t, ht, indexes, rfl, hl⟩⟩

/-- A fault escapes from the migration of an entity through its table,
or through its relationships after that. -/
theorem escapes_migrate_iff {e : Entity} {v : Option String} :
    (migrate e v options stamp).Escapes ↔ (Sql.createTable e.table options).Escapes ∨
      (Sql.createTable e.table options).Returns ∧ (relationships e options).Escapes := by
  obtain ⟨indexes, hi⟩ := returns_createIndexes e options
  have hnot := not_escapes_of_returns ⟨indexes, hi⟩
  unfold migrate
  rw [escapes_bind]
  refine or_congr_right ?_
  simp only [escapes_bind (k := fun _ => (_ >>= _ : Emission _)), hi, hnot, false_or,
    escapes_bind_of_returns fun _ => returns_pure _]
  exact ⟨fun ⟨t, ht, _, _, hl⟩ => ⟨⟨t, ht⟩, hl⟩,
    fun ⟨⟨t, ht⟩, hl⟩ => ⟨t, ht, indexes, rfl, hl⟩⟩

/-- What becomes of an entity: its own migration with all its losses, or
the failure of its defect. -/
theorem migrateOne_ok_iff {e : Entity} {r : Migrated} :
    (migrateOne e version options stamp).outcome = .ok r ↔
      (∃ m, (migrate e (some version) options stamp).outcome = .ok m ∧
        r = .compiled m (migrate e (some version) options stamp).notes) ∨
      ∃ d, (migrate e (some version) options stamp).Stops d ∧
        r = .failed (.ofDefect e.id d) := by
  unfold migrateOne Stops Fails
  obtain ⟨notes, outcome⟩ := migrate e (some version) options stamp
  cases outcome with
  | ok m => simp [eq_comm]
  | error f => cases f <;> simp [eq_comm]

/-- An entity from which no fault escapes is migrated or recorded. -/
theorem returns_migrateOne {e : Entity}
    (h : ¬ (migrate e (some version) options stamp).Escapes) :
    (migrateOne e version options stamp).Returns := by
  by_cases hr : (migrate e (some version) options stamp).Returns
  · obtain ⟨m, hm⟩ := hr
    exact ⟨_, migrateOne_ok_iff.mpr (.inl ⟨m, hm, rfl⟩)⟩
  · obtain ⟨d, hd⟩ := Classical.not_forall_not.mp fun hs => hr (returns_of_not hs h)
    exact ⟨_, migrateOne_ok_iff.mpr (.inr ⟨d, hd, rfl⟩)⟩

/-! ## Batches -/

/-- What became of each of some entities. -/
abbrev Became (version : String) (options : Option Variant) (stamp : Option Stamp) :
    List Entity → List Migrated → Prop :=
  List.Forall₂ fun e r => (migrateOne e version options stamp).outcome = .ok r

/-- A batch is what became of each entity in turn. -/
theorem migrateAll_ok_iff {es : List Entity} {b : Batch} :
    (migrateAll es version options stamp).outcome = .ok b ↔
      ∃ rs, Became version options stamp es rs ∧ b = Batch.ofMigrated version rs := by
  unfold migrateAll
  rw [outcome_bind_ok]
  simp only [outcome_each_iff]
  refine exists_congr fun rs => and_congr_right fun _ => ?_
  exact ⟨fun h => (Except.ok.inj h).symm, fun h => congrArg Except.ok h.symm⟩

/-- Whether an entity of a batch compiles. -/
def compiles (version : String) (options : Option Variant) (stamp : Option Stamp)
    (e : Entity) : Bool :=
  (migrate e (some version) options stamp).outcome.isOk

/-- The migrations of a batch are those of the entities that compile, in
their order. -/
theorem Became.migrations {es : List Entity} {rs : List Migrated}
    (h : Became version options stamp es rs) :
    List.Forall₂ (fun e m => (migrate e (some version) options stamp).outcome = .ok m)
      (es.filter (compiles version options stamp)) (rs.filterMap Migrated.migration?) := by
  induction h with
  | nil => exact .nil
  | cons hr _ ih =>
    rcases migrateOne_ok_iff.mp hr with ⟨m, hm, rfl⟩ | ⟨d, hd, rfl⟩
    · rw [List.filter_cons_of_pos (by simp [compiles, hm, Except.isOk, Except.toBool])]
      exact .cons hm ih
    · rw [List.filter_cons_of_neg (by
        rw [compiles, hd]
        simp [Except.isOk, Except.toBool])]
      exact ih

/-- Every entity is among the scripts of a batch or among its
failures. -/
theorem length_ofMigrated (rs : List Migrated) :
    (Batch.ofMigrated version rs).up.length + (Batch.ofMigrated version rs).failures.length =
      rs.length := by
  simp only [Batch.ofMigrated, List.length_map]
  induction rs with
  | nil => rfl
  | cons r rest ih =>
    cases r with
    | compiled m losses =>
      simp only [List.filterMap_cons, Migrated.migration?, Migrated.failure?, List.length_cons]
      omega
    | failed f =>
      simp only [List.filterMap_cons, Migrated.migration?, Migrated.failure?, List.length_cons]
      omega

theorem getElem?_of_forall₂ {α β : Type} {R : α → β → Prop} {as : List α} {bs : List β}
    (h : List.Forall₂ R as bs) {k : Nat} {a : α} (ha : as[k]? = some a) :
    ∃ b, bs[k]? = some b ∧ R a b := by
  induction h generalizing k with
  | nil => cases ha
  | cons hr _ ih =>
    cases k with
    | zero =>
      cases ha
      exact ⟨_, rfl, hr⟩
    | succ k => simpa using ih (by simpa using ha)

/-- What holds of any batch. -/
theorem migrateAll_aligned {es : List Entity} {b : Batch}
    (h : (migrateAll es version options stamp).outcome = .ok b) :
    b.up.length + b.failures.length = es.length ∧
    b.up.length = b.down.length ∧
    b.up.length = (es.filter (compiles version options stamp)).length ∧
    ∀ (k : Nat) e, (es.filter (compiles version options stamp))[k]? = some e →
      ∃ m, (migrate e (some version) options stamp).outcome = .ok m ∧
        b.up[k]? = some m.text ∧ b.down[k]? = some (dropStatement e.table.name) := by
  obtain ⟨rs, hrs, rfl⟩ := migrateAll_ok_iff.mp h
  have hm := hrs.migrations
  refine ⟨?_, ?_, ?_, fun k e he => ?_⟩
  · rw [length_ofMigrated, hrs.length_eq]
  · simp [Batch.ofMigrated]
  · simp [Batch.ofMigrated, hm.length_eq]
  · obtain ⟨m, hk, ho⟩ := getElem?_of_forall₂ hm he
    refine ⟨m, ho, ?_, ?_⟩
    · simp [Batch.ofMigrated, hk]
    · simp [Batch.ofMigrated, hk, migrate_ok ho]

theorem ofMigrated_append (rs ss : List Migrated) :
    (Batch.ofMigrated version (rs ++ ss)).up =
      (Batch.ofMigrated version rs).up ++ (Batch.ofMigrated version ss).up ∧
    (Batch.ofMigrated version (rs ++ ss)).down =
      (Batch.ofMigrated version rs).down ++ (Batch.ofMigrated version ss).down ∧
    (Batch.ofMigrated version (rs ++ ss)).failures =
      (Batch.ofMigrated version rs).failures ++ (Batch.ofMigrated version ss).failures ∧
    (Batch.ofMigrated version (rs ++ ss)).warnings =
      (Batch.ofMigrated version rs).warnings ++ (Batch.ofMigrated version ss).warnings := by
  simp [Batch.ofMigrated]

/-- Entities from which no fault escapes make a batch. -/
theorem returns_migrateAll {es : List Entity}
    (h : ∀ e ∈ es, ¬ (migrate e (some version) options stamp).Escapes) :
    ∃ b, (migrateAll es version options stamp).outcome = .ok b :=
  (returns_bind_of_returns fun _ => (returns_bind_of_returns fun _ => returns_pure _).mpr
    ⟨(), rfl⟩).mpr (returns_each.mpr fun e he => returns_migrateOne (h e he))

/-- Entities from which no fault escapes, in two lists: their batch is
the two batches in turn. In it every entity has a script and a drop
statement at the same place, those of the entities that compile in their
order, or one failure; and an entity that fails leaves no more than that,
whatever it noted before. -/
theorem migrateAll_append {xs ys : List Entity}
    (h : ∀ e ∈ xs ++ ys, ¬ (migrate e (some version) options stamp).Escapes) :
    ∃ b₁ b₂ b, (migrateAll xs version options stamp).outcome = .ok b₁ ∧
      (migrateAll ys version options stamp).outcome = .ok b₂ ∧
      (migrateAll (xs ++ ys) version options stamp).outcome = .ok b ∧
      (b.up = b₁.up ++ b₂.up ∧ b.down = b₁.down ++ b₂.down ∧
        b.failures = b₁.failures ++ b₂.failures ∧ b.warnings = b₁.warnings ++ b₂.warnings) ∧
      (b.up.length + b.failures.length = (xs ++ ys).length ∧ b.up.length = b.down.length ∧
        b.up.length = ((xs ++ ys).filter (compiles version options stamp)).length ∧
        ∀ (k : Nat) e, ((xs ++ ys).filter (compiles version options stamp))[k]? = some e →
          ∃ m, (migrate e (some version) options stamp).outcome = .ok m ∧
            b.up[k]? = some m.text ∧ b.down[k]? = some (dropStatement e.table.name)) ∧
      ∀ before e after d, xs ++ ys = before ++ e :: after →
        (migrate e (some version) options stamp).Stops d →
        ∃ c₁ c₂, (migrateAll before version options stamp).outcome = .ok c₁ ∧
          (migrateAll after version options stamp).outcome = .ok c₂ ∧
          b.up = c₁.up ++ c₂.up ∧ b.down = c₁.down ++ c₂.down ∧
          b.failures = c₁.failures ++ .ofDefect e.id d :: c₂.failures ∧
          b.warnings = c₁.warnings ++ c₂.warnings := by
  obtain ⟨b₁, h₁⟩ := returns_migrateAll fun e he => h e (List.mem_append_left ys he)
  obtain ⟨b₂, h₂⟩ := returns_migrateAll fun e he => h e (List.mem_append_right xs he)
  obtain ⟨rs, hrs, rfl⟩ := migrateAll_ok_iff.mp h₁
  obtain ⟨ss, hss, rfl⟩ := migrateAll_ok_iff.mp h₂
  have hb : (migrateAll (xs ++ ys) version options stamp).outcome =
      .ok (Batch.ofMigrated version (rs ++ ss)) :=
    migrateAll_ok_iff.mpr ⟨_, List.rel_append hrs hss, rfl⟩
  refine ⟨_, _, _, h₁, h₂, hb, ofMigrated_append rs ss, migrateAll_aligned hb, ?_⟩
  intro before e after d hsplit hd
  rw [hsplit] at h hb
  obtain ⟨c₁, hc₁⟩ := returns_migrateAll fun e' he => h e' (List.mem_append_left _ he)
  obtain ⟨c₂, hc₂⟩ := returns_migrateAll fun e' he =>
    h e' (List.mem_append_right _ (List.mem_cons_of_mem e he))
  obtain ⟨ps, hps, rfl⟩ := migrateAll_ok_iff.mp hc₁
  obtain ⟨qs, hqs, rfl⟩ := migrateAll_ok_iff.mp hc₂
  have he : (migrateOne e version options stamp).outcome =
      .ok (.failed (.ofDefect e.id d)) := migrateOne_ok_iff.mpr (.inr ⟨d, hd, rfl⟩)
  have hall := migrateAll_ok_iff.mpr ⟨_, List.rel_append hps (.cons he hqs), rfl⟩
  have heq := Except.ok.inj (hb.symm.trans hall)
  obtain ⟨hup, hdown, hfailures, hwarnings⟩ :=
    @ofMigrated_append version ps (.failed (.ofDefect e.id d) :: qs)
  rw [heq]
  exact ⟨_, _, hc₁, hc₂, hup, hdown, hfailures, hwarnings⟩

/-- A table that compiles, then an entity with a relationship of no known
relation. -/
theorem migrateAll_append_orders :
    (∀ e ∈ [Entity.ofLinks (.ofKey "lines" (.plain .uuid)) []] ++
        [taggedOrders (.plain .integer)], ¬ (migrate e (some "1") none none).Escapes) ∧
    ∃ b, (migrateAll ([Entity.ofLinks (.ofKey "lines" (.plain .uuid)) []] ++
        [taggedOrders (.plain .integer)]) "1" none none).outcome = .ok b ∧
      b.up.length + b.failures.length = 2 := by
  have h : ∀ e ∈ [Entity.ofLinks (.ofKey "lines" (.plain .uuid)) []] ++
      [taggedOrders (.plain .integer)], ¬ (migrate e (some "1") none none).Escapes := by
    intro e he
    rcases List.mem_cons.mp he with rfl | he
    · exact not_escapes_of_returns ⟨_, rfl⟩
    · obtain rfl := List.mem_singleton.mp he
      exact not_escapes_of_stops (d := .unknownRelation "notes" "orders" "some") rfl
  obtain ⟨_, _, b, _, _, hb, _, ⟨hlength, _⟩, _⟩ := migrateAll_append h
  exact ⟨h, b, hb, hlength⟩

end Polyschema
