/-
Polyschema.Proofs.Report — what the report of a batch accounts for.

* `Keyed.entries_ofList`, `Keyed.get?_eq_some_iff` — parts of different
  names are kept as they are given, and found by their names.
* `migrate_version` — the version of a migration stands in one line of
  its script and nowhere else.
* `Resulted.ids`, `Resulted.migrated` — of the entities of a batch each
  compiled or failed, and those that compiled are all migrated.
* `Report.Accounts`, `compileBatch_report` — so the report of a batch
  parts its entities into schemas and failures.
-/
import Polyschema.Proofs.Compile
import Polyschema.Proofs.Created

namespace Polyschema

open Polyschema.Text Polyschema.Noted Polyschema.Emit

variable {c : Config} {options : Option Variant} {stamp : Option Stamp}

/-! ## Parts by name -/

namespace Keyed

variable {α : Type}

/-- Parts of different names are kept in the order in which they are
given. -/
theorem entries_ofList {l : List (String × α)} (h : (l.map Prod.fst).Nodup) :
    (ofList l).entries = l := by
  suffices hfold : ∀ k : Keyed α, (k.names ++ l.map Prod.fst).Nodup →
      (l.foldl (fun k e => k.put e.1 e.2) k).entries = k.entries ++ l from
    hfold .empty h
  clear h
  induction l with
  | nil => simp
  | cons e rest ih =>
    intro k hk
    have hnew : e.1 ∉ k.names := fun hmem =>
      (List.nodup_append.mp hk).2.2 _ hmem _ (List.mem_cons_self ..) rfl
    have hput : (k.put e.1 e.2).entries = k.entries ++ [e] := putEntry_of_not_mem hnew
    rw [List.foldl_cons, ih, hput, List.append_assoc]
    · rfl
    · rw [names, hput, List.map_append, List.append_assoc]
      exact hk

/-- What is found under a name is the one part of that name. -/
theorem get?_eq_some_iff {k : Keyed α} {name : String} {a : α} :
    k.get? name = some a ↔ (name, a) ∈ k.entries := by
  obtain ⟨entries, hdistinct⟩ := k
  show entries.lookup name = some a ↔ (name, a) ∈ entries
  induction entries with
  | nil => simp
  | cons e rest ih =>
    obtain ⟨n, b⟩ := e
    rw [List.map_cons, List.nodup_cons] at hdistinct
    rw [List.lookup_cons, List.mem_cons, Prod.mk.injEq]
    by_cases hn : name = n
    · subst hn
      have hnot : (name, a) ∉ rest := fun hmem =>
        hdistinct.1 (List.mem_map.mpr ⟨_, hmem, rfl⟩)
      simp [hnot, eq_comm]
    · have hne : (name == n) = false := by simpa using hn
      simp [hne, hn, ih hdistinct.2]

end Keyed

/-! ## Versions -/

/-- An entity is migrated in the same way under any version. -/
theorem migrate_version {e : Entity} {v : Option String} {m : Migration}
    (h : (migrate e v options stamp).outcome = .ok m) (v' : Option String) :
    (migrate e v' options stamp).outcome = .ok { m with version := v'.getD e.version } := by
  have hm := migrate_eq_ok.mp h
  exact migrate_eq_ok.mpr { hm with version := rfl }

/-- The lines of a script after that of its version. -/
def Migration.afterVersion (m : Migration) : List String :=
  s!"-- Description: {m.description}" ::
    (m.stamp.toList.map fun s => s!"-- Generated: {s.text}") ++ ["", m.table.text] ++
    sectionLines "Create indexes" m.entity (m.indexes.map Sql.CreateIndex.text) ++
    sectionLines "Create constraints" m.entity (m.constraints.map Sql.AddConstraint.text) ++
    sectionLines "Create relationships" m.entity (m.links.map Linkage.text)

/-- A script of an entity by its version and the lines after that. -/
def Entity.script (e : Entity) (version : String) (rest : List String) : String :=
  lines ([s!"-- Migration: Create {e.table.name} table", s!"-- Entity: {e.id}",
    s!"-- Version: {version}"] ++ rest) ++ "\n"

/-- The scripts of an entity under different versions differ in one
line. -/
theorem migrate_script {e : Entity} {v : Option String} {m : Migration}
    (h : (migrate e v options stamp).outcome = .ok m) (version : String) :
    { m with version := version }.text = e.script version m.afterVersion := by
  rw [Entity.script, ← migrate_ok h, ← (migrate_eq_ok.mp h).entity]
  simp [Migration.text, Migration.header, Migration.afterVersion]

/-! ## The entities of a batch -/

/-- What came of each of some entities. -/
abbrev Resulted (c : Config) (stamp : Option Stamp) : List Entity → List Compiled → Prop :=
  List.Forall₂ fun e r => (compileOne c stamp e).outcome = .ok r

/-- The entities that compiled with what was emitted for them. -/
def compiledIn (rs : List Compiled) : List (Entity × Generated) := rs.filterMap Compiled.done?

/-- The failures of the others. -/
def failedIn (rs : List Compiled) : List Failure := rs.filterMap Compiled.failure?

namespace Resulted

variable {es : List Entity} {rs : List Compiled}

/-- Those that compiled stand in their order. -/
theorem sublist (h : Resulted c stamp es rs) : ((compiledIn rs).map Prod.fst).Sublist es := by
  induction h with
  | nil => exact .slnil
  | cons hr _ ih =>
    obtain ⟨g, rfl, _⟩ | ⟨f, rfl, _⟩ := compileOne_ok hr
    · exact ih.cons_cons _
    · exact ih.cons _

/-- Each entity compiled or failed, and none did both. -/
theorem ids (h : Resulted c stamp es rs) :
    ((compiledIn rs).map (·.1.id) ++ (failedIn rs).map (·.entity)).Perm (es.map (·.id)) := by
  induction h with
  | nil => exact .refl _
  | cons hr _ ih =>
    obtain ⟨g, rfl, _⟩ | ⟨f, rfl, hf⟩ := compileOne_ok hr
    · exact ih.cons _
    · rw [List.map_cons, ← hf]
      exact List.perm_middle.trans (ih.cons _)

/-- Where nothing failed, all compiled. -/
theorem complete (h : Resulted c stamp es rs) (hnone : failedIn rs = []) :
    (compiledIn rs).map Prod.fst = es := by
  have hlength := h.ids.length_eq
  rw [hnone, List.map_nil, List.append_nil, List.length_map, List.length_map] at hlength
  exact h.sublist.eq_of_length (by rw [List.length_map, hlength])

theorem compiled (h : Resulted c stamp es rs) {e : Entity} {g : Generated}
    (hmem : (e, g) ∈ compiledIn rs) : e ∈ es ∧ (compileEntity c e stamp).outcome = .ok g := by
  obtain ⟨r, hr, hdone⟩ := List.mem_filterMap.mp hmem
  obtain ⟨e', he, ho⟩ := exists_of_mem_forall₂ h hr
  obtain ⟨g', rfl, hg⟩ | ⟨f, rfl, _⟩ := compileOne_ok ho
  · cases hdone
    exact ⟨he, hg⟩
  · cases hdone

/-- Where ids differ, an entity that compiled has no failure and any other
has one. -/
theorem parted (h : Resulted c stamp es rs) (hids : (es.map (·.id)).Nodup) {e : Entity}
    (he : e ∈ es) :
    e.id ∈ (compiledIn rs).map (·.1.id) ∧ ((failedIn rs).map (·.entity)).count e.id = 0 ∨
    e.id ∉ (compiledIn rs).map (·.1.id) ∧ ((failedIn rs).map (·.entity)).count e.id = 1 := by
  have hcount := h.ids.count_eq e.id
  rw [List.count_append, List.count_eq_one_of_mem hids (List.mem_map_of_mem he)] at hcount
  by_cases hmem : e.id ∈ (compiledIn rs).map (·.1.id)
  · have hpos := List.count_pos_iff.mpr hmem
    exact .inl ⟨hmem, by omega⟩
  · have hzero := List.count_eq_zero.mpr hmem
    exact .inr ⟨hmem, by omega⟩

/-- Where ids differ, the schemas are of what compiled, in its order. -/
theorem entries (h : Resulted c stamp es rs) (hids : (es.map (·.id)).Nodup) :
    (Keyed.ofList ((compiledIn rs).map fun (e, g) => (e.id, g))).entries =
      (compiledIn rs).map fun (e, g) => (e.id, g) := by
  refine Keyed.entries_ofList (hids.sublist ?_)
  have hsub := h.sublist.map (·.id)
  rw [List.map_map] at hsub ⊢
  exact hsub

end Resulted

/-! ## What is emitted for an entity -/

theorem outcome_reported {α : Type} {m : Emission α} {p : α × List Diagnostic}
    (h : (reported m).outcome = .ok p) : m.outcome = .ok p.1 := by
  unfold reported at h
  cases hm : m.outcome with
  | error f =>
    rw [hm] at h
    cases h
  | ok a =>
    rw [hm] at h
    cases h
    rfl

/-- The parts that are emitted for an entity, each as it is emitted
alone. -/
theorem compileEntity_ok {e : Entity} {g : Generated}
    (h : (compileEntity c e stamp).outcome = .ok g) :
    (schemaTexts e c.dialects (some c.variant)).outcome = .ok g.schemas ∧
    (∃ links, (relationships e (some c.variant)).outcome = .ok links ∧
      g.relationships = links.map Linkage.text) ∧
    g.constraints = (Sql.addConstraints e).map Sql.AddConstraint.text ∧
    ∃ m, (migrate e none (some c.variant) stamp).outcome = .ok m ∧ g.migrations = [m.text] := by
  obtain ⟨schemas, hs, h⟩ := outcome_bind_ok.mp h
  obtain ⟨links, hl, h⟩ := outcome_bind_ok.mp h
  obtain ⟨_, _, h⟩ := outcome_bind_ok.mp h
  obtain ⟨m, hm, h⟩ := outcome_bind_ok.mp h
  cases h
  exact ⟨outcome_reported hs, ⟨_, outcome_reported hl, rfl⟩, rfl, m, hm, rfl⟩

/-- The script of a batch and that of the entity alone differ in the line
of their version. -/
theorem scripts_compileEntity {e : Entity} {g : Generated}
    (hg : (compileEntity c e stamp).outcome = .ok g) {version : String} {m : Migration}
    (hm : (migrate e (some version) (some c.variant) stamp).outcome = .ok m) :
    ∃ rest, g.migrations = [e.script e.version rest] ∧ m.text = e.script version rest := by
  obtain ⟨_, _, _, m₀, hm₀, hmigrations⟩ := compileEntity_ok hg
  have hown : { m₀ with version := e.version } = m₀ :=
    Except.ok.inj ((migrate_version hm₀ none).symm.trans hm₀)
  have hbatch : { m₀ with version := version } = m :=
    Except.ok.inj ((migrate_version hm₀ (some version)).symm.trans hm)
  refine ⟨m₀.afterVersion, ?_, ?_⟩
  · rw [hmigrations, ← migrate_script hm₀, hown]
  · rw [← hbatch, migrate_script hm₀]

/-! ## Migrations of what compiled -/

/-- All that compiled has a migration. -/
theorem Resulted.filter_compiles {es : List Entity} {rs : List Compiled}
    (h : Resulted c stamp es rs) (version : String) :
    ((compiledIn rs).map Prod.fst).filter (compiles version (some c.variant) stamp) =
      (compiledIn rs).map Prod.fst := by
  refine List.filter_eq_self.mpr fun e he => ?_
  obtain ⟨⟨e, g⟩, hp, rfl⟩ := List.mem_map.mp he
  have hreturns : (migrate e (some version) (some c.variant) stamp).Returns :=
    returns_migrate_of_compileEntity ⟨g, (h.compiled hp).2⟩
  obtain ⟨m, hm⟩ := hreturns
  rw [compiles, hm]
  rfl

/-- All that compiled is migrated. -/
theorem Resulted.migrated {es : List Entity} {rs : List Compiled} (h : Resulted c stamp es rs)
    {version : String} {b : Batch}
    (hb : (migrateAll ((compiledIn rs).map Prod.fst) version (some c.variant) stamp).outcome =
      .ok b) :
    b.failures = [] ∧
    ∃ ms, CompiledTo version (some c.variant) stamp ((compiledIn rs).map Prod.fst) ms ∧
      b.up = ms.map Migration.text ∧
      b.down = (Check.tableNames ((compiledIn rs).map Prod.fst)).map dropStatement := by
  have hall := h.filter_compiles version
  obtain ⟨ms, hms, hup, hdown⟩ := scripts_migrateAll hb
  obtain ⟨htotal, _, hcompiled, _⟩ := migrateAll_aligned hb
  rw [hall] at hms hdown hcompiled
  exact ⟨List.eq_nil_of_length_eq_zero (by omega), ms, hms, hup, hdown⟩

/-- The scripts at one place of the batch are those of the entity that
compiled at this place. -/
theorem Resulted.scripts {es : List Entity} {rs : List Compiled} (h : Resulted c stamp es rs)
    {version : String} {b : Batch}
    (hb : (migrateAll ((compiledIn rs).map Prod.fst) version (some c.variant) stamp).outcome =
      .ok b) {k : Nat} {e : Entity} {g : Generated} (hk : (compiledIn rs)[k]? = some (e, g)) :
    b.down[k]? = some (dropStatement e.table.name) ∧
    ∃ rest, g.migrations = [e.script e.version rest] ∧
      b.up[k]? = some (e.script version rest) := by
  obtain ⟨-, ms, hms, hup, hdown⟩ := h.migrated hb
  obtain ⟨-, hg⟩ := h.compiled (List.mem_of_getElem? hk)
  obtain ⟨m, hmk, hm⟩ := getElem?_of_forall₂ (List.forall₂_map_left_iff.mp hms) hk
  obtain ⟨rest, hown, hscript⟩ := scripts_compileEntity hg hm
  refine ⟨?_, rest, hown, ?_⟩
  · simp [hdown, Check.tableNames, hk]
  · simp [hup, hmk, hscript]

/-! ## The report -/

/-- A report is made of what came of each entity, and of the migrations
of those that compiled. -/
theorem compileBatch_ok {es : List Entity} {version : String} {now : Calendar.Timestamp}
    {report : Report} (h : (compileBatch c es version now).outcome = .ok report) :
    ∃ rs b, Resulted c (c.stamp? now) es rs ∧
      (migrateAll ((compiledIn rs).map Prod.fst) version (some c.variant)
        (c.stamp? now)).outcome = .ok b ∧
      report.batch = some b ∧
      report.schemas = .ofList ((compiledIn rs).map fun (e, g) => (e.id, g)) ∧
      report.failures = failedIn rs ++ b.failures ∧
      report.totalEntities = es.length ∧
      report.compiledEntities = (compiledIn rs).length ∧
      report.success = (report.failures.isEmpty && report.errors.isEmpty) := by
  obtain ⟨_, _, h⟩ := outcome_bind_ok.mp h
  obtain ⟨rs, hrs, h⟩ := outcome_bind_ok.mp h
  obtain ⟨b, hb, h⟩ := outcome_bind_ok.mp h
  cases h
  exact ⟨rs, b, outcome_each_iff.mp hrs, hb, rfl, rfl, rfl, rfl, rfl, rfl⟩

/-- What a report says of the entities of a batch. -/
structure Report.Accounts (r : Report) (c : Config) (es : List Entity) (version : String)
    (stamp : Option Stamp) (b : Batch) : Prop where
  /-- Schemas stand in the order of the entities. -/
  ordered : r.schemas.names.Sublist (es.map (·.id))
  /-- Each entity has a schema, or else one failure. -/
  parted : ∀ e ∈ es,
    e.id ∈ r.schemas.names ∧ (r.failures.map (·.entity)).count e.id = 0 ∨
    e.id ∉ r.schemas.names ∧ (r.failures.map (·.entity)).count e.id = 1
  counted : r.totalEntities = es.length ∧ r.compiledEntities = r.schemas.size ∧
    r.compiledEntities + r.failures.length = r.totalEntities
  /-- A schema is what the entity alone is compiled to. -/
  alone : ∀ e ∈ es, ∀ g, r.schemas.get? e.id = some g →
    (compileEntity c e stamp).outcome = .ok g
  migrated : b.failures = [] ∧ b.up.length = r.compiledEntities ∧
    b.down.length = r.compiledEntities
  /-- The scripts of the batch are those of the schemas, under the version
  of the batch. -/
  scripts : ∀ (k : Nat) id g, r.schemas.entries[k]? = some (id, g) →
    ∃ e ∈ es, e.id = id ∧ b.down[k]? = some (dropStatement e.table.name) ∧
      ∃ rest, g.migrations = [e.script e.version rest] ∧
        b.up[k]? = some (e.script version rest)
  success : r.success = true ↔ r.failures = [] ∧ r.errors = []

/-- A batch of entities of different ids, from none of which a fault
escapes, comes to a report that accounts for each of them. -/
theorem compileBatch_report {es : List Entity} (hids : (es.map (·.id)).Nodup)
    (now : Calendar.Timestamp)
    (h : ∀ e ∈ es, ¬ (compileEntity c e (c.stamp? now)).Escapes) (version : String) :
    ∃ report b, (compileBatch c es version now).outcome = .ok report ∧
      report.batch = some b ∧ report.Accounts c es version (c.stamp? now) b := by
  obtain ⟨report, hreport⟩ := (returns_compileBatch_iff c es version now).mpr h
  obtain ⟨rs, b, hrs, hb, hbatch, hschemas, hfailures, htotal, hcompiled, hsuccess⟩ :=
    compileBatch_ok hreport
  obtain ⟨hnone, ms, hms, hup, hdown⟩ := hrs.migrated hb
  rw [hnone, List.append_nil] at hfailures
  have hentries := hrs.entries hids
  rw [← hschemas] at hentries
  have hnames : report.schemas.names = (compiledIn rs).map (·.1.id) := by
    rw [Keyed.names, hentries, List.map_map]
    rfl
  have htables : b.down.length = (compiledIn rs).length := by simp [hdown, Check.tableNames]
  have hlength := hrs.ids.length_eq
  simp only [List.length_append, List.length_map] at hlength
  refine ⟨report, b, hreport, hbatch, ?_, ?_, ⟨htotal, ?_, ?_⟩, ?_, ⟨hnone, ?_, ?_⟩, ?_, ?_⟩
  · rw [hnames]
    have hsub := hrs.sublist.map (·.id)
    rwa [List.map_map] at hsub
  · intro e he
    rw [hnames, hfailures]
    exact hrs.parted hids he
  · rw [hcompiled, Keyed.size, hentries, List.length_map]
  · rw [hcompiled, hfailures, htotal, hlength]
  · intro e he g hg
    rw [Keyed.get?_eq_some_iff, hentries] at hg
    obtain ⟨⟨e', g'⟩, hp, heq⟩ := List.mem_map.mp hg
    obtain ⟨hid, rfl⟩ := Prod.mk.inj heq
    obtain ⟨he', hg'⟩ := hrs.compiled hp
    obtain rfl := List.inj_on_of_nodup_map hids he' he hid
    exact hg'
  · rw [hup, List.length_map, ← hms.length_eq, List.length_map, hcompiled]
  · rw [htables, hcompiled]
  · intro k id g hk
    rw [hentries, List.getElem?_map, Option.map_eq_some_iff] at hk
    obtain ⟨⟨e, g'⟩, hk, heq⟩ := hk
    obtain ⟨rfl, rfl⟩ := Prod.mk.inj heq
    exact ⟨e, (hrs.compiled (List.mem_of_getElem? hk)).1, rfl, hrs.scripts hb hk⟩
  · simp [hsuccess, List.isEmpty_iff]

/-- The first moment of a year. -/
def newYear : Calendar.Timestamp := ⟨⟨2024, 1, 1, by decide⟩, .midnight, none⟩

/-- Lines compile, orders have a relationship of no known relation: the
report has one schema and one failure. -/
theorem compileBatch_report_orders :
    ∃ report b, (compileBatch .standard [.ofLinks (.ofKey "lines" (.plain .uuid)) [],
        taggedOrders (.plain .integer)] "7" newYear).outcome = .ok report ∧
      report.schemas.names = ["lines"] ∧ report.failures.map (·.entity) = ["orders"] ∧
      report.Accounts .standard [.ofLinks (.ofKey "lines" (.plain .uuid)) [],
        taggedOrders (.plain .integer)] "7" none b := by
  have h : ∀ e ∈ [Entity.ofLinks (.ofKey "lines" (.plain .uuid)) [],
      taggedOrders (.plain .integer)], ¬ (compileEntity .standard e none).Escapes := by
    intro e he
    rcases List.mem_cons.mp he with rfl | he
    · exact not_escapes_of_returns ⟨_, rfl⟩
    · obtain rfl := List.mem_singleton.mp he
      exact not_escapes_of_stops (d := .unknownRelation "notes" "orders" "some") rfl
  obtain ⟨report, b, hreport, _, haccounts⟩ :=
    compileBatch_report (by decide) newYear h "7"
  obtain rfl : _ = report := Except.ok.inj hreport
  exact ⟨_, b, rfl, rfl, rfl, haccounts⟩

end Polyschema
