/-
Polyschema.Proofs.Created — the tables that a batch of migrations
creates, against those that it drops.

* `Entity.junctionTables` — the tables that the relationships of an
  entity need.
* `createdTables_migrate`, `creates_of_mem` — a migration creates the
  table of its entity and those junctions, each by a statement of its
  script.
* `down_drops_own_tables` — the way down drops the tables of the entities
  alone, so junctions stay behind.
* `created_once_iff` — a batch without errors creates no table twice
  exactly where its junctions do not clash.
-/
import Mathlib.Data.List.Nodup
import Polyschema.Check.Batch
import Polyschema.Proofs.Migration
import Polyschema.Proofs.Pieces

namespace Polyschema

open Polyschema.Text Polyschema.Noted Polyschema.Emit

variable {version : String} {options : Option Variant} {stamp : Option Stamp}

/-! ## Junctions -/

/-- The table that a relationship needs, if it needs one. -/
def Relationship.junctionTable? (r : Relationship) : Option String :=
  if r.relation = .known .manyToMany then r.junction.map (·.name) else none

/-- The tables that the relationships of an entity need. -/
def Entity.junctionTables (e : Entity) : List String :=
  e.relationships.filterMap Relationship.junctionTable?

/-- A relationship creates the table that it needs. -/
theorem createdTables_relationship {r : Relationship} {context : Option Table} {l : Linkage}
    (h : (relationship r options context).outcome = .ok l) :
    l.createdTables = r.junctionTable?.toList := by
  obtain ⟨-, ⟨j, t, hm, hj, ht, rfl⟩ | ⟨hm, c, rfl⟩⟩ := relationship_ok h
  · simp [Linkage.createdTables, Relationship.junctionTable?, hm, hj, ht]
  · simp [Linkage.createdTables, Relationship.junctionTable?, hm]

theorem createdTables_relationships {e : Entity} {links : List Linkage}
    (h : (relationships e options).outcome = .ok links) :
    links.flatMap Linkage.createdTables = e.junctionTables := by
  have hlinks := map_eq_of_forall₂ (outcome_each_iff.mp h) createdTables_relationship
  rw [List.flatMap_def, hlinks, ← List.flatMap_def, Entity.junctionTables,
    List.filterMap_eq_flatMap_toList]

/-- A migration creates the table of its entity, then the junctions. -/
theorem createdTables_migrate {e : Entity} {v : Option String} {m : Migration}
    (h : (migrate e v options stamp).outcome = .ok m) :
    m.createdTables = e.table.name :: e.junctionTables := by
  rw [Migration.createdTables, migrate_ok h,
    createdTables_relationships (migrate_eq_ok.mp h).links]

/-! ## Statements of a script -/

/-- A script has the opening of a statement that creates a table. -/
def Creates (script table : String) : Prop :=
  s!"CREATE TABLE {table} (".toList <:+: script.toList

/-- What a line creates, the whole text creates. -/
theorem creates_lines {line table : String} {pieces : List String} (hl : line ∈ pieces)
    (h : Creates line table) : Creates (lines pieces) table :=
  infix_lines hl h

theorem creates_createTable (t : Sql.CreateTable) : Creates t.text t.name :=
  creates_lines (by simp) List.infix_rfl

theorem creates_createJunction (j : CreateJunction) : Creates j.text j.name :=
  creates_lines (by simp) List.infix_rfl

theorem creates_linkage {l : Linkage} {table : String} (h : table ∈ l.createdTables) :
    Creates l.text table := by
  cases l with
  | direct label key index => cases h
  | junction localTable foreignTable junction indexes =>
    obtain rfl := List.mem_singleton.mp h
    exact creates_lines (by simp) (creates_createJunction junction)

theorem mem_sectionLines {title entity statement : String} {statements : List String}
    (h : statement ∈ statements) :
    statement ∈ Migration.sectionLines title entity statements := by
  have hne : statements.isEmpty = false := by
    cases statements with
    | nil => cases h
    | cons _ _ => rfl
  rw [Migration.sectionLines, hne]
  exact List.mem_cons_of_mem _ (List.mem_cons_of_mem _ h)

theorem infix_ended {pieces : List String} {line : String} {part : List Char}
    (hl : line ∈ pieces) (h : part <:+: line.toList) :
    part <:+: (lines pieces ++ "\n").toList := by
  rw [String.toList_append]
  exact (infix_lines hl h).trans (List.prefix_append _ _).isInfix

/-- What stands in a statement of a migration stands in its script. -/
theorem infix_table {m : Migration} {part : List Char} (h : part <:+: m.table.text.toList) :
    part <:+: m.text.toList :=
  infix_ended (by simp) h

theorem infix_index {m : Migration} {i : Sql.CreateIndex} (hi : i ∈ m.indexes)
    {part : List Char} (h : part <:+: i.text.toList) : part <:+: m.text.toList := by
  refine infix_ended (List.mem_append_left _ (List.mem_append_left _ ?_)) h
  exact List.mem_append_right _ (mem_sectionLines (List.mem_map_of_mem hi))

theorem infix_link {m : Migration} {l : Linkage} (hl : l ∈ m.links)
    {part : List Char} (h : part <:+: l.text.toList) : part <:+: m.text.toList := by
  refine infix_ended ?_ h
  exact List.mem_append_right _ (mem_sectionLines (List.mem_map_of_mem hl))

/-- The script of a migration has a statement for each table that the
migration creates. -/
theorem creates_of_mem {m : Migration} {table : String} (h : table ∈ m.createdTables) :
    Creates m.text table := by
  rcases List.mem_cons.mp h with rfl | h
  · exact infix_table (creates_createTable m.table)
  · obtain ⟨l, hl, hcreated⟩ := List.mem_flatMap.mp h
    exact infix_link hl (creates_linkage hcreated)

/-! ## Batches -/

/-- The migrations of some entities, each with one. -/
abbrev CompiledTo (version : String) (options : Option Variant) (stamp : Option Stamp) :
    List Entity → List Migration → Prop :=
  List.Forall₂ fun e m => (migrate e (some version) options stamp).outcome = .ok m

/-- Migrations are of the tables of their entities. -/
theorem CompiledTo.tableNames {es : List Entity} {ms : List Migration}
    (h : CompiledTo version options stamp es ms) :
    ms.map (·.table.name) = Check.tableNames es :=
  map_eq_of_forall₂ h migrate_ok

/-- The scripts of a batch are those of the entities that compile, and on
the way down each of them has the statement for its own table. -/
theorem scripts_migrateAll {es : List Entity} {b : Batch}
    (h : (migrateAll es version options stamp).outcome = .ok b) :
    ∃ ms, CompiledTo version options stamp (es.filter (compiles version options stamp)) ms ∧
      b.up = ms.map Migration.text ∧
      b.down = (Check.tableNames (es.filter (compiles version options stamp))).map
        dropStatement := by
  obtain ⟨rs, hrs, rfl⟩ := migrateAll_ok_iff.mp h
  have hms : CompiledTo version options stamp _ _ := hrs.migrations
  refine ⟨_, hms, rfl, ?_⟩
  rw [← hms.tableNames, List.map_map]
  rfl

/-- Migrations create the tables of their entities and the junctions,
each as often as it is needed. -/
theorem CompiledTo.createdTables {es : List Entity} {ms : List Migration}
    (h : CompiledTo version options stamp es ms) :
    (ms.flatMap Migration.createdTables).Perm
      (Check.tableNames es ++ es.flatMap Entity.junctionTables) := by
  induction h with
  | nil => exact .refl _
  | @cons e m es ms hm _ ih =>
    rw [List.flatMap_cons, createdTables_migrate hm, List.cons_append]
    refine .cons _ ((ih.append_left e.junctionTables).trans ?_)
    exact List.perm_append_comm_assoc _ _ _

/-- A drop statement names one table. -/
theorem dropStatement_injective : Function.Injective dropStatement := by
  intro a b h
  unfold dropStatement at h
  rwa [String.append_left_inj, String.append_right_inj] at h

/-- The way down of a batch drops the tables of the entities that
compile, in the order in which they are created, and nothing else. So of
what the way up creates the junctions stay behind, but for those named
like the table of an entity; and nothing does exactly where all of them
are named so. -/
theorem down_drops_own_tables {es : List Entity} {b : Batch}
    (h : (migrateAll es version options stamp).outcome = .ok b) :
    ∃ ms, CompiledTo version options stamp (es.filter (compiles version options stamp)) ms ∧
      b.up = ms.map Migration.text ∧
      (∀ m ∈ ms, ∀ table ∈ m.createdTables, Creates m.text table) ∧
      b.down = (Check.tableNames (es.filter (compiles version options stamp))).map
        dropStatement ∧
      (∀ table, table ∈ ms.flatMap Migration.createdTables ↔ dropStatement table ∈ b.down ∨
        table ∈ (es.filter (compiles version options stamp)).flatMap Entity.junctionTables) ∧
      ((∀ table, table ∈ ms.flatMap Migration.createdTables ↔
          dropStatement table ∈ b.down) ↔
        ∀ table ∈ (es.filter (compiles version options stamp)).flatMap Entity.junctionTables,
          dropStatement table ∈ b.down) := by
  obtain ⟨ms, hms, hup, hdown⟩ := scripts_migrateAll h
  have hcreated (table : String) : table ∈ ms.flatMap Migration.createdTables ↔
      dropStatement table ∈ b.down ∨
        table ∈ (es.filter (compiles version options stamp)).flatMap Entity.junctionTables := by
    rw [hms.createdTables.mem_iff, List.mem_append, hdown,
      List.mem_map_of_injective dropStatement_injective]
  refine ⟨ms, hms, hup, fun _ _ _ => creates_of_mem, hdown, hcreated, ?_⟩
  simp only [hcreated]
  exact ⟨fun hall table hj => (hall table).mp (.inr hj),
    fun hall table => ⟨fun hc => hc.elim id (hall table), .inl⟩⟩

/-- An entity that is joined to another table. -/
def Entity.joined (home other junction : String) : Entity :=
  .ofLinks (.ofKey home (.plain .uuid)) [
    .ofKeys other (.known .manyToMany) home (.named other)
      (some ⟨junction, s!"{home}_id", s!"{other}_id", .empty⟩)]

/-- Orders and their lines: the junction of the tags has a table name of
its own, and there is one drop statement for each entity. -/
theorem down_drops_own_tables_orders :
    ∃ b, (migrateAll [.joined "orders" "tags" "order_tags",
        .ofLinks (.ofKey "lines" (.plain .uuid)) []] "1" none none).outcome = .ok b ∧
      b.down = [dropStatement "orders", dropStatement "lines"] := by
  obtain ⟨b, hb⟩ : ∃ b, (migrateAll [.joined "orders" "tags" "order_tags",
    .ofLinks (.ofKey "lines" (.plain .uuid)) []] "1" none none).outcome = .ok b := ⟨_, rfl⟩
  obtain ⟨_, _, _, _, hdown, _, _⟩ := down_drops_own_tables hb
  exact ⟨b, hb, hdown⟩

/-- The junction of orders and tags is created, and not dropped. -/
theorem order_tags_left_behind :
    ∃ b m, (migrateAll [.joined "orders" "tags" "order_tags"] "1" none none).outcome =
        .ok b ∧
      (migrate (.joined "orders" "tags" "order_tags") (some "1") none none).outcome = .ok m ∧
      b.up = [m.text] ∧
      ¬ ∀ table, table ∈ m.createdTables ↔ dropStatement table ∈ b.down := by
  refine ⟨_, _, rfl, rfl, rfl, fun h => ?_⟩
  have hcreated : "order_tags" ∈ ["orders", "order_tags"] := by decide
  have hdropped : dropStatement "order_tags" ∈ [dropStatement "orders"] := (h _).mp hcreated
  exact absurd (dropStatement_injective (List.mem_singleton.mp hdropped)) (by decide)

/-! ## Tables created twice -/

theorem mem_counted {names : List String} {name : String} {n : Nat} :
    (name, n) ∈ counted names ↔ name ∈ names ∧ n = names.count name := by
  simp only [counted, List.mem_map, List.mem_eraseDups, Prod.mk.injEq]
  exact ⟨fun ⟨_, hm, he, hn⟩ => he ▸ ⟨hm, hn.symm⟩, fun ⟨hm, hn⟩ => ⟨name, hm, rfl, hn.symm⟩⟩

/-- Names reported as errors where they are counted more than once. -/
theorem sound_repeated (report : String × Nat → Finding)
    (hr : ∀ p, (report p).level = .error) (names : List String) :
    Sound (((counted names).filter fun (_, n) => 1 < n).map report) ↔ names.Nodup := by
  rw [List.nodup_iff_count_le_one]
  simp only [Sound, List.forall_mem_map, hr, List.mem_filter, decide_eq_true_iff]
  constructor
  · intro h name
    by_contra hcount
    have hmem : name ∈ names := List.count_pos_iff.mp (by omega)
    exact h _ ⟨mem_counted.mpr ⟨hmem, rfl⟩, not_le.mp hcount⟩ rfl
  · rintro h ⟨name, n⟩ ⟨hmem, hn⟩ _
    obtain ⟨_, rfl⟩ := mem_counted.mp hmem
    exact absurd (h name) (not_le.mpr hn)

theorem sound_repeatedTables_iff (es : List Entity) :
    Sound (Check.repeatedTables es) ↔ (Check.tableNames es).Nodup :=
  sound_repeated _ (fun _ => rfl) _

/-- A batch without errors has each table of an entity once. -/
theorem tableNames_nodup_of_sound {es : List Entity} (h : Sound (Check.batch es)) :
    (Check.tableNames es).Nodup := by
  unfold Check.batch at h
  simp only [sound_append] at h
  exact (sound_repeatedTables_iff es).mp h.1.1.2

/-- A batch without errors creates the table of each entity once. It
creates no table twice exactly where the junctions of its entities differ
from each other and from these. -/
theorem created_once_iff {es : List Entity}
    (hvalid : Diagnostic.isValid (diagnosticsOf (Check.batch es)) = true) {b : Batch}
    (h : (migrateAll es version options stamp).outcome = .ok b) :
    ∃ ms, CompiledTo version options stamp (es.filter (compiles version options stamp)) ms ∧
      b.up = ms.map Migration.text ∧
      (Check.tableNames (es.filter (compiles version options stamp))).Nodup ∧
      ((ms.flatMap Migration.createdTables).Nodup ↔
        ((es.filter (compiles version options stamp)).flatMap Entity.junctionTables).Nodup ∧
        ∀ table ∈ (es.filter (compiles version options stamp)).flatMap Entity.junctionTables,
          table ∉ Check.tableNames (es.filter (compiles version options stamp))) := by
  obtain ⟨ms, hms, hup, -⟩ := scripts_migrateAll h
  have hown : (Check.tableNames (es.filter (compiles version options stamp))).Nodup :=
    (tableNames_nodup_of_sound ((isValid_diagnosticsOf _).mp hvalid)).sublist
      (List.filter_sublist.map _)
  refine ⟨ms, hms, hup, hown, ?_⟩
  rw [hms.createdTables.nodup_iff, List.nodup_append, and_iff_right hown]
  exact and_congr_right fun _ => ⟨fun hne table hj ho => hne table ho table hj rfl,
    fun hnot own ho table hj heq => hnot table hj (heq ▸ ho)⟩

/-- Orders and tags with a junction each. -/
theorem created_once_two_junctions :
    Diagnostic.isValid (diagnosticsOf (Check.batch [.joined "orders" "tags" "order_tags",
        .joined "tags" "orders" "tag_orders"])) = true ∧
    ∃ (b : Batch) (ms : List Migration), (migrateAll [.joined "orders" "tags" "order_tags",
        .joined "tags" "orders" "tag_orders"] "1" none none).outcome = .ok b ∧
      b.up = ms.map Migration.text ∧ (ms.flatMap Migration.createdTables).Nodup := by
  have hvalid : Diagnostic.isValid (diagnosticsOf (Check.batch
      [.joined "orders" "tags" "order_tags", .joined "tags" "orders" "tag_orders"])) = true := by
    decide +kernel
  obtain ⟨b, hb⟩ : ∃ b, (migrateAll [.joined "orders" "tags" "order_tags",
    .joined "tags" "orders" "tag_orders"] "1" none none).outcome = .ok b := ⟨_, rfl⟩
  obtain ⟨ms, _, hup, _, honce⟩ := created_once_iff hvalid hb
  have hjunctions : ["order_tags", "tag_orders"].Nodup := by decide
  have hapart : ∀ table ∈ ["order_tags", "tag_orders"], table ∉ ["orders", "tags"] := by decide
  exact ⟨hvalid, b, ms, hb, hup, honce.mpr ⟨hjunctions, hapart⟩⟩

/-- Where both ends of one association declare its junction, no error is
found and the junction is created twice. -/
theorem shared_junction_created_twice :
    Diagnostic.isValid (diagnosticsOf (Check.batch [.joined "orders" "tags" "order_tags",
        .joined "tags" "orders" "order_tags"])) = true ∧
    ∃ (b : Batch) (ms : List Migration), (migrateAll [.joined "orders" "tags" "order_tags",
        .joined "tags" "orders" "order_tags"] "1" none none).outcome = .ok b ∧
      b.up = ms.map Migration.text ∧ ¬ (ms.flatMap Migration.createdTables).Nodup := by
  refine ⟨by decide +kernel, ?_⟩
  obtain ⟨b, hb⟩ : ∃ b, (migrateAll [.joined "orders" "tags" "order_tags",
    .joined "tags" "orders" "order_tags"] "1" none none).outcome = .ok b := ⟨_, rfl⟩
  obtain ⟨ms, hms, hup, _⟩ := scripts_migrateAll hb
  refine ⟨b, ms, hb, hup, fun honce => ?_⟩
  have htables : ["orders", "tags", "order_tags", "order_tags"].Nodup :=
    hms.createdTables.nodup_iff.mp honce
  exact absurd htables (by decide)

end Polyschema
