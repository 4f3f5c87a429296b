/-
Polyschema.Proofs.Built — what a built entity has of the calls before it.

Indexes and constraints are recorded without a table and get the name of the
table when the entity is built, so it does not matter when the table was
named.

* `entriesOf_eq_strKeys`, `map_fst_entriesOf`, `lookup_entriesOf` — entries
  that are named by texts in the end were given so, stand in the order in
  which their names came first, and are found as they were given last.
* `Table.of_build`, `Entity.of_build` — what the parts of a built entity
  are read from.
* `Builder.make_entity` — an entity in the making to begin with.
* `Entity.Gathers`, `build_gathers` — the parts of a built entity are those
  that the calls gave, and some calls may be moved.
* `Script.gathers_of_built` — so are those of an entity that a script builds,
  whatever else the script does.
-/
import Polyschema.Proofs.Chain
import Polyschema.Proofs.Edit
import Polyschema.Proofs.Linked
import Polyschema.Proofs.Reorder
import Polyschema.Proofs.Report

namespace Polyschema

open Polyschema.Noted Polyschema.Text

/-! ## Entries by their names -/

section

variable {α : Type}

/-- Entries that are named by texts. -/
def strKeys (given : List (String × α)) : List (Value × α) :=
  given.map fun e => (.str e.1, e.2)

/-- Where all keys are texts in the end, they were texts before, and so is
the key that was put in. -/
theorem putEntry_eq_strKeys {key : Value} {value : α} {entries : List (Value × α)}
    {named : List (String × α)} (h : putEntry key value entries = strKeys named) :
    ∃ name before, key = .str name ∧ entries = strKeys before ∧
      named = putEntry name value before := by
  induction entries generalizing named with
  | nil =>
    obtain _ | ⟨⟨name, v⟩, rest⟩ := named
    · cases h
    · obtain ⟨he, hrest⟩ := List.cons.inj h
      cases he
      obtain rfl := List.map_eq_nil_iff.mp hrest.symm
      exact ⟨name, [], rfl, rfl, rfl⟩
  | cons e rest ih =>
    obtain ⟨k, v⟩ := e
    obtain _ | ⟨⟨m, w⟩, named⟩ := named
    · rw [putEntry] at h
      split at h <;> cases h
    rw [putEntry] at h
    split at h
    next hsame =>
      obtain ⟨he, hrest⟩ := List.cons.inj h
      cases he
      have hkey : key = .str m := Value.same_str_iff.mp hsame
      exact ⟨m, (m, v) :: named, hkey, congrArg _ hrest, by simp [putEntry]⟩
    next hother =>
      obtain ⟨he, hrest⟩ := List.cons.inj h
      cases he
      obtain ⟨name, before, rfl, rfl, rfl⟩ := ih hrest
      have hne : ¬ (m == name) = true := by
        intro hmn
        exact hother (Value.same_str_iff.mpr (by rw [beq_iff_eq.mp hmn]))
      exact ⟨name, (m, w) :: before, rfl, rfl, by simp [putEntry, hne]⟩

theorem entriesOf_concat {κ : Type} [BEq κ] (given : List (κ × α)) (e : κ × α) :
    entriesOf (given ++ [e]) = putEntry e.1 e.2 (entriesOf given) :=
  List.foldl_concat ..

/-- Entries that are named by texts in the end were given so. -/
theorem entriesOf_eq_strKeys {added : List (Value × α)} {named : List (String × α)}
    (h : entriesOf added = strKeys named) :
    ∃ given, added = strKeys given ∧ named = entriesOf given := by
  induction added using List.reverseRecOn generalizing named with
  | nil => exact ⟨[], rfl, List.map_eq_nil_iff.mp h.symm⟩
  | append_singleton added e ih =>
    rw [entriesOf_concat] at h
    obtain ⟨name, before, hkey, hbefore, rfl⟩ := putEntry_eq_strKeys h
    obtain ⟨given, rfl, rfl⟩ := ih hbefore
    refine ⟨given ++ [(name, e.2)], ?_, (entriesOf_concat given (name, e.2)).symm⟩
    rw [strKeys, strKeys, List.map_append, List.map_singleton, ← hkey]

variable {κ : Type} [DecidableEq κ]

/-- Names stand in the order in which they came first. -/
theorem map_fst_entriesOf (given : List (κ × α)) :
    (entriesOf given).map Prod.fst = (given.map Prod.fst).eraseDups := by
  induction given using List.reverseRecOn with
  | nil => rfl
  | append_singleton given e ih =>
    rw [entriesOf_concat, map_fst_putEntry, ih, List.map_append, List.map_singleton,
      ColumnType.eraseDups_concat]
    simp only [List.mem_eraseDups]

theorem lookup_putEntry_of_ne {key other : κ} (h : other ≠ key) (value : α)
    (entries : List (κ × α)) :
    (putEntry key value entries).lookup other = entries.lookup other := by
  have hother : (other == key) = false := beq_eq_false_iff_ne.mpr h
  induction entries with
  | nil => simp [putEntry, List.lookup_cons, hother]
  | cons e rest ih =>
    obtain ⟨k, v⟩ := e
    by_cases hk : k = key
    · subst hk
      simp [putEntry, List.lookup_cons, hother]
    · simp only [putEntry, beq_iff_eq, if_neg hk, List.lookup_cons, ih]

/-- What is found under a name is what was given for it last. -/
theorem lookup_entriesOf (given : List (κ × α)) (name : κ) :
    (entriesOf given).lookup name = given.reverse.lookup name := by
  induction given using List.reverseRecOn with
  | nil => rfl
  | append_singleton given e ih =>
    rw [entriesOf_concat, List.reverse_append, List.reverse_singleton, List.singleton_append,
      List.lookup_cons]
    by_cases hname : name = e.1
    · rw [hname, lookup_putEntry_self]
      simp
    · rw [lookup_putEntry_of_ne hname, ih, beq_eq_false_iff_ne.mpr hname]

end

/-! ## Readings of made parts -/

section

variable {α β : Type} {read : Part → Reading α}

theorem Reading.all_map_eq_done {read : α → Reading β} {l : List α} {bs : List β} :
    all (l.map read) = .done bs ↔ List.Forall₂ (fun a b => read a = .done b) l bs := by
  induction l generalizing bs with
  | nil => simp [all, eq_comm]
  | cons a rest ih =>
    simp only [List.map_cons, all, seq_eq_done, map_eq_done, ih, List.forall₂_cons_left_iff]
    constructor
    · rintro ⟨_, bs, ⟨b, hb, rfl⟩, hrest, rfl⟩
      exact ⟨b, bs, hb, hrest, rfl⟩
    · rintro ⟨b, bs, hb, hrest, rfl⟩
      exact ⟨_, bs, ⟨b, hb, rfl⟩, hrest, rfl⟩

theorem keyName_eq_done {key : Value} {name : String} (h : Intake.keyName key = .done name) :
    key = .str name := by
  unfold Intake.keyName at h
  split at h
  · cases h
    rfl
  · cases h

/-- An entry that can be read is named by a text. -/
theorem entry_eq_done {e : Value × Part} {x : String × α} (h : Intake.entry read e = .done x) :
    e.1 = .str x.1 ∧ read e.2 = .done x.2 := by
  obtain ⟨_, a, hkey, ha, rfl⟩ := Reading.seq_eq_done.mp h
  obtain ⟨name, hname, rfl⟩ := Reading.map_eq_done.mp hkey
  exact ⟨keyName_eq_done hname, Reading.under_eq_done.mp ha⟩

section

variable {named : List (String × Part)} {es : List (String × α)}

/-- Entries that can be read are named by texts. -/
theorem exists_strKeys {entries : Fields}
    (h : List.Forall₂ (fun e x => e.1 = .str x.1 ∧ read e.2 = .done x.2) entries es) :
    ∃ named, entries = strKeys named ∧
      List.Forall₂ (fun e x => e.1 = x.1 ∧ read e.2 = .done x.2) named es := by
  induction h with
  | nil => exact ⟨[], rfl, .nil⟩
  | @cons e x _ _ hx _ ih =>
    obtain ⟨named, rfl, hread⟩ := ih
    obtain ⟨key, p⟩ := e
    obtain ⟨rfl, hp⟩ := hx
    exact ⟨(x.1, p) :: named, rfl, .cons ⟨rfl, hp⟩ hread⟩

variable (h : List.Forall₂ (fun e x => e.1 = x.1 ∧ read e.2 = .done x.2) named es)
include h

theorem map_fst_read : es.map Prod.fst = named.map Prod.fst :=
  map_eq_of_forall₂ h fun hx => hx.1.symm

theorem lookup_read (name : String) :
    (named.lookup name).map read = (es.lookup name).map .done := by
  induction h with
  | nil => rfl
  | @cons e x _ _ hx _ ih =>
    obtain ⟨n, p⟩ := e
    obtain ⟨rfl, hp⟩ := hx
    rw [List.lookup_cons, List.lookup_cons]
    split
    next => exact congrArg some hp
    next => exact ih

end

/-- A mapping that can be read has one entry of each name that was given, in
the order in which the names came first, read from what was given last. -/
theorem dictOf_entriesOf {added : Fields} {k : Keyed α}
    (h : Intake.dictOf read (.dict (entriesOf added)) = .done k) :
    ∃ given : List (String × Part), added = strKeys given ∧
      k.names = (given.map Prod.fst).eraseDups ∧
      ∀ name, (given.reverse.lookup name).map read = (k.get? name).map .done := by
  obtain ⟨es, hes, rfl⟩ := Reading.map_eq_done.mp h
  obtain ⟨named, hnamed, hread⟩ :=
    exists_strKeys ((Reading.all_map_eq_done.mp hes).imp fun _ _ => entry_eq_done)
  obtain ⟨given, hadded, rfl⟩ := entriesOf_eq_strKeys hnamed
  have hnames : es.map Prod.fst = (given.map Prod.fst).eraseDups :=
    (map_fst_read hread).trans (map_fst_entriesOf given)
  have hentries : (Keyed.ofList es).entries = es :=
    Keyed.entries_ofList (hnames ▸ nodup_eraseDups _)
  refine ⟨given, hadded, ?_, fun name => ?_⟩
  · rw [Keyed.names, hentries, hnames]
  · rw [Keyed.get?, hentries, ← lookup_entriesOf]
    exact lookup_read hread name

theorem tupleOf_eq_done {items : List Part} {as : List α} :
    Intake.tupleOf read (.tuple items) = .done as ↔
      List.Forall₂ (fun item a => read item = .done a) items as :=
  Reading.each_eq_done

/-- What is made already is taken as it is. -/
theorem tupleOf_made (read : Part → Reading α) (make : α → Part)
    (hmake : ∀ a, read (make a) = .done a) {as bs : List α}
    (h : Intake.tupleOf read (.tuple (as.map make)) = .done bs) : bs = as := by
  have hread := List.forall₂_map_left_iff.mp (tupleOf_eq_done.mp h)
  have hmap : bs.map id = as.map id :=
    map_eq_of_forall₂ hread fun hab => Reading.done.inj (hab.symm.trans (hmake _))
  simpa using hmap

theorem tupleOf_text {items : List Part} {texts : List String}
    (h : Intake.tupleOf Intake.text (.tuple items) = .done texts) : texts.map Part.str = items :=
  (map_eq_of_forall₂ (f := id) (tupleOf_eq_done.mp h) fun hitem =>
    (text_eq_done hitem).symm).trans (List.map_id _)

theorem Reading.orFault_eq_ok {r : Reading α} {a : α} : r.orFault = .ok a ↔ r = .done a := by
  cases r <;> simp [orFault]

end

/-! ## Built tables and entities -/

/-- What a table that is built is read from. -/
structure Table.Reads (t : Table) (b : EntityBuilder) : Prop where
  name : b.tableName = .str t.name
  columns : Intake.dictOf Column.ofPart (.dict b.columns) = .done t.columns
  uniques : t.uniques.map (·.map Part.str) = b.uniques
  checks : t.checks = b.checks

theorem Table.of_build {b : EntityBuilder} {t : Table} (h : b.table = .ok t) : t.Reads b := by
  obtain ⟨h, -⟩ := Fields.closed_eq_done.mp (Reading.orFault_eq_ok.mp h)
  simp only [Reading.seq_eq_done, Reading.map_eq_done, Reading.inField_eq_done] at h
  obtain ⟨_, _, ⟨_, checks, ⟨_, uniques, ⟨_, _, ⟨_, columns, ⟨name, hname, rfl⟩, hcolumns, rfl⟩,
    -, rfl⟩, huniques, rfl⟩, hchecks, rfl⟩, -, rfl⟩ := h
  -- each field is found among those that are given
  change Intake.name b.tableName = .done name at hname
  change Intake.someDictOf Column.ofPart (.dict b.columns) = .done columns at hcolumns
  change Intake.tupleOf (Intake.tupleOf Intake.text) (.tuple (b.uniques.map .tuple)) =
    .done uniques at huniques
  change Intake.tupleOf Check.ofPart (.tuple (b.checks.map .check)) = .done checks at hchecks
  exact {
    name := name_eq_done hname
    columns := (Reading.check_eq_done.mp hcolumns).1
    uniques := (map_eq_of_forall₂ (f := id)
      (List.forall₂_map_left_iff.mp (tupleOf_eq_done.mp huniques)) tupleOf_text).trans
      (List.map_id _)
    checks := tupleOf_made Check.ofPart .check (fun _ => rfl) hchecks }

theorem Part.str_inj {s t : String} (h : Part.str s = .str t) : s = t :=
  Value.str.inj (Part.data.inj h)

theorem Index.of_named {table : Part} {fields : Fields} {i : Index}
    (h : Index.ofFields ((.str "table_name", table) :: fields) = .done i) :
    table = .str i.table := by
  obtain ⟨h, -⟩ := Fields.closed_eq_done.mp h
  unfold Index.assemble at h
  simp only [Reading.seq_eq_done, Reading.map_eq_done, Reading.inField_eq_done] at h
  obtain ⟨_, _, ⟨_, _, ⟨_, _, ⟨_, _, ⟨_, _, ⟨_, -, rfl⟩, htable, rfl⟩, -, rfl⟩, -, rfl⟩, -, rfl⟩, -,
    rfl⟩ := h
  exact name_eq_done htable

theorem Constraint.of_named {table : Part} {fields : Fields} {c : Constraint}
    (h : Constraint.ofFields ((.str "table_name", table) :: fields) = .done c) :
    table = .str c.table := by
  obtain ⟨h, -⟩ := Fields.closed_eq_done.mp h
  unfold Constraint.assemble at h
  simp only [Reading.seq_eq_done, Reading.map_eq_done, Reading.inField_eq_done] at h
  obtain ⟨_, _, ⟨_, _, ⟨_, _, ⟨_, -, rfl⟩, htable, rfl⟩, -, rfl⟩, -, rfl⟩ := h
  exact name_eq_done htable

/-- What an entity that is built is read from. -/
structure Entity.Reads (e : Entity) (b : EntityBuilder) : Prop where
  name : e.name = b.name
  table : e.table.Reads b
  indexes : List.Forall₂ (fun fields i =>
    Index.ofFields ((.str "table_name", b.tableName) :: fields) = .done i) b.indexes e.indexes
  constraints : List.Forall₂ (fun fields c =>
    Constraint.ofFields ((.str "table_name", b.tableName) :: fields) = .done c)
    b.constraints e.constraints
  relationships : List.Forall₂ (fun p r => Relationship.ofPart p = .done r)
    b.relationships e.relationships

theorem Entity.of_build {b : EntityBuilder} {e : Entity} (h : b.build = .ok e) : e.Reads b := by
  obtain ⟨t, ht, h⟩ := bind_eq_ok.mp h
  obtain ⟨is, his, h⟩ := bind_eq_ok.mp h
  obtain ⟨cs, hcs, h⟩ := bind_eq_ok.mp h
  obtain ⟨h, -⟩ := Fields.closed_eq_done.mp (Reading.orFault_eq_ok.mp h)
  unfold Entity.assemble at h
  simp only [Reading.seq_eq_done, Reading.map_eq_done, Reading.inField_eq_done] at h
  obtain ⟨_, constraints, ⟨_, indexes, ⟨_, relationships, ⟨_, _, ⟨_, table, ⟨_, _, ⟨_, _,
    ⟨_, name, ⟨_, -, rfl⟩, hname, rfl⟩, -, rfl⟩, -, rfl⟩, htable, rfl⟩, -, rfl⟩,
    hrelationships, rfl⟩, hindexes, rfl⟩, hconstraints, rfl⟩ := h
  obtain rfl : b.name = name := Reading.done.inj hname
  obtain rfl : t = table := Reading.done.inj htable
  obtain rfl : indexes = is :=
    tupleOf_made Index.ofPart .index (fun _ => rfl) hindexes
  obtain rfl : constraints = cs :=
    tupleOf_made Constraint.ofPart .constraint (fun _ => rfl) hconstraints
  exact {
    name := rfl
    table := Table.of_build ht
    indexes := (mapM_eq_ok.mp his).imp fun _ _ => Reading.orFault_eq_ok.mp
    constraints := (mapM_eq_ok.mp hcs).imp fun _ _ => Reading.orFault_eq_ok.mp
    relationships := tupleOf_eq_done.mp hrelationships }

/-! ## Entities in the making to begin with -/

/-- The name of a table if nothing else is said: the name of its own that
the entity gives it, or else the plural in small letters. -/
def EntityName.defaultTable (n : EntityName) : String :=
  (n.database.filter (· != "")).getD (lower n.plural)

/-- An entity in the making of which only the names are known. -/
structure EntityBuilder.Fresh (b : EntityBuilder) : Prop where
  tableName : b.tableName = .str b.name.defaultTable
  columns : b.columns = []
  uniques : b.uniques = []
  checks : b.checks = []
  indexes : b.indexes = []
  constraints : b.constraints = []
  relationships : b.relationships = []

theorem EntityBuilder.new_fresh {id singular plural display database : Part} {b : EntityBuilder}
    (h : EntityBuilder.new id singular plural display database = .ok b) : b.Fresh := by
  obtain ⟨plural, _, h⟩ := bind_eq_ok.mp h
  obtain ⟨display, _, h⟩ := bind_eq_ok.mp h
  obtain ⟨name, hname, h⟩ := bind_eq_ok.mp h
  obtain ⟨hname, -⟩ := Fields.closed_eq_done.mp (Reading.orFault_eq_ok.mp hname)
  unfold EntityName.assemble at hname
  simp only [Reading.seq_eq_done, Reading.map_eq_done, Reading.inField_eq_done] at hname
  obtain ⟨_, given, ⟨_, _, ⟨_, _, ⟨_, -, rfl⟩, -, rfl⟩, -, rfl⟩, hdatabase, rfl⟩ := hname
  change Intake.nullable Intake.text database = .done given at hdatabase
  cases h
  refine ⟨?_, rfl, rfl, rfl, rfl, rfl, rfl⟩
  obtain ⟨rfl, rfl⟩ | ⟨s, rfl, rfl⟩ := nullable_text_eq_done hdatabase
  · rfl
  · by_cases hs : s = "" <;>
      simp [hs, EntityName.defaultTable, Part.str, Part.asValue, Value.truthy, Option.filter]

/-- Both makers begin with the names. -/
theorem Builder.make_entity {maker : String} {arguments : Call} {b : EntityBuilder}
    (h : Builder.make "EntityBuilder" maker arguments = .ok (.changed (.entity b))) : b.Fresh := by
  unfold Builder.make at h
  split at h
  next heq => exact absurd heq (by decide)
  next heq => exact absurd heq (by decide)
  next =>
    obtain ⟨given, _, h⟩ := bind_eq_ok.mp h
    obtain ⟨b', hb, h⟩ := bind_eq_ok.mp h
    obtain ⟨plural, _, hb⟩ := bind_eq_ok.mp hb
    cases h
    exact EntityBuilder.new_fresh hb
  next =>
    obtain ⟨given, _, h⟩ := bind_eq_ok.mp h
    obtain ⟨b', hb, h⟩ := bind_eq_ok.mp h
    cases h
    exact EntityBuilder.new_fresh hb
  next heq => exact absurd heq (by decide)
  next heq => exact absurd heq (by decide)
  next => cases h

/-! ## Built entities and their calls -/

/-- The parts of an entity are those that the calls gave, in the order of the
calls. Its table has the name that was given last, and so have the tables of
its indexes and constraints. Its columns stand where their names came first,
each as it was given last. -/
structure Entity.Gathers (e : Entity) (calls : List MethodCall) : Prop where
  tableName : Part.str e.table.name =
    (calls.filterMap (·.edit.tableName)).getLast?.getD (.str e.name.defaultTable)
  indexTables : ∀ i ∈ e.indexes, i.table = e.table.name
  constraintTables : ∀ c ∈ e.constraints, c.table = e.table.name
  columns : ∃ given : List (String × Part), calls.flatMap (·.edit.columns) = strKeys given ∧
    e.table.columns.names = (given.map Prod.fst).eraseDups ∧
    ∀ name, (given.reverse.lookup name).map Column.ofPart =
      (e.table.columns.get? name).map .done
  uniques : e.table.uniques.map (·.map Part.str) = calls.flatMap (·.edit.uniques)
  checks : e.table.checks = calls.flatMap (·.edit.checks)
  indexes : List.Forall₂ (fun fields i =>
    Index.ofFields ((.str "table_name", .str e.table.name) :: fields) = .done i)
    (calls.flatMap (·.edit.indexes)) e.indexes
  constraints : List.Forall₂ (fun fields c =>
    Constraint.ofFields ((.str "table_name", .str e.table.name) :: fields) = .done c)
    (calls.flatMap (·.edit.constraints)) e.constraints
  relationships : List.Forall₂ (fun p r => Relationship.ofPart p = .done r)
    (calls.flatMap (·.edit.relationships)) e.relationships

theorem Entity.Reads.gathers {b : EntityBuilder} (hb : b.Fresh) {calls : List MethodCall}
    {e : Entity} (he : e.Reads (b.run calls)) : e.Gathers calls := by
  have hname : (b.run calls).name = b.name := EntityBuilder.run_name b calls
  have htable : (b.run calls).tableName = .str e.table.name := he.table.name
  have hcolumns := he.table.columns
  rw [EntityBuilder.run_columns, hb.columns] at hcolumns
  have hindexes := he.indexes
  rw [htable, EntityBuilder.run_indexes, hb.indexes, List.nil_append] at hindexes
  have hconstraints := he.constraints
  rw [htable, EntityBuilder.run_constraints, hb.constraints, List.nil_append] at hconstraints
  have hrelationships := he.relationships
  rw [EntityBuilder.run_relationships, hb.relationships, List.nil_append] at hrelationships
  exact {
    tableName := by
      rw [← htable, he.name, hname, ← hb.tableName]
      exact b.run_tableName calls
    indexTables := by
      intro i hi
      obtain ⟨fields, _, hread⟩ := exists_of_mem_forall₂ hindexes hi
      exact (Part.str_inj (Index.of_named hread)).symm
    constraintTables := by
      intro c hc
      obtain ⟨fields, _, hread⟩ := exists_of_mem_forall₂ hconstraints hc
      exact (Part.str_inj (Constraint.of_named hread)).symm
    columns := dictOf_entriesOf hcolumns
    uniques := by
      rw [he.table.uniques, EntityBuilder.run_uniques, hb.uniques, List.nil_append]
    checks := by
      rw [he.table.checks, EntityBuilder.run_checks, hb.checks, List.nil_append]
    indexes := hindexes
    constraints := hconstraints
    relationships := hrelationships }

/-- Whatever else a script does, an entity that it builds has what the calls
gave that went to its builder since that was made. -/
theorem Script.gathers_of_built {s : Script} {first last : ScriptCall} {b : EntityBuilder}
    (hnew : s.lookup first.on = none) (hsort : first.on = "EntityBuilder")
    (hmade : (s.step first).2 = .ok (.changed (.entity b))) (between : List ScriptCall)
    (hlast : ((s.step first).1.run between).number? last.on = some s.builders.length)
    {e : Entity}
    (hbuilt : (((s.step first).1.run between).step last).2 = .ok (.result (.entity e))) :
    e.Gathers ((s.step first).1.callsTo s.builders.length between) := by
  obtain ⟨hmake, hb⟩ := builder_made hnew hmade
  rw [hsort] at hmake
  have hbuild := build_of_step (builder_run between hb) hlast hbuilt
  exact (Entity.of_build hbuild).gathers (Builder.make_entity hmake)

/-- The methods whose calls may stand anywhere among calls of other
methods. -/
def movableMethods : List String := ["table_name", "primary_key", "description", "version"]

/-- Calls of which one is moved past calls of other methods that came after
it. -/
def MovedBack (calls moved : List MethodCall) : Prop :=
  ∃ first c between last, c.method ∈ movableMethods ∧ (∀ d ∈ between, d.method ≠ c.method) ∧
    calls = first ++ c :: (between ++ last) ∧ moved = first ++ (between ++ c :: last)

theorem MovedBack.run_eq {calls moved : List MethodCall} (h : MovedBack calls moved)
    (b : EntityBuilder) : b.run calls = b.run moved := by
  obtain ⟨first, c, between, last, hc, hd, rfl, rfl⟩ := h
  have hreplacing : ∀ method ∈ movableMethods, method ∈ replacingMethods := by decide
  exact b.run_moved between (hreplacing _ hc) hd first last

/-- Whatever calls are made to a new entity in the making: an entity that is
built has what they gave, and is built as well where a call for the name of
the table, its key, the description or the version is moved past calls of
other methods. -/
theorem build_gathers {maker : String} {arguments : Call} {b : EntityBuilder}
    (hb : Builder.make "EntityBuilder" maker arguments = .ok (.changed (.entity b)))
    (calls : List MethodCall) {e : Entity} (he : (b.run calls).build = .ok e) :
    e.Gathers calls ∧ ∀ moved, MovedBack calls moved ∨ MovedBack moved calls →
      (b.run moved).build = .ok e := by
  refine ⟨(Entity.of_build he).gathers (Builder.make_entity hb), ?_⟩
  rintro moved (h | h)
  · rw [← h.run_eq, he]
  · rw [h.run_eq, he]

/-- A call with arguments by place. -/
def MethodCall.placing (method : String) (parts : List Part) : MethodCall :=
  ⟨method, ⟨parts.map .part, []⟩⟩

/-- An entity whose table is named last, after an index and a constraint. -/
def salesCalls : List MethodCall := [
  .placing "table_name" [.str "orders"],
  .placing "index" [.str "by_total", .tuple [.str "total"]],
  .placing "number_field" [.str "total"],
  .placing "constraint" [.str "total_kept", .str "check", .str "total > 0"],
  .placing "id_field" [],
  .placing "unique" [.str "total"],
  .placing "check" [.str "total_known", .str "total IS NOT NULL"],
  .placing "number_field" [.str "total", .data (.bool true)],
  .placing "version" [.str "2"],
  .placing "table_name" [.str "sales"]]

/-- The same calls, the version first. -/
def salesMoved : List MethodCall :=
  .placing "version" [.str "2"] :: (salesCalls.take 8 ++ salesCalls.drop 9)

theorem build_gathers_sales : ∃ b e,
    Builder.make "EntityBuilder" "create" ⟨[.part (.str "sale"), .part (.str "Sale")], []⟩ =
      .ok (.changed (.entity b)) ∧
    (b.run salesCalls).build = .ok e ∧ e.Gathers salesCalls ∧ MovedBack salesMoved salesCalls ∧
    (b.run salesMoved).build = .ok e ∧ e.table.name = "sales" ∧
    e.indexes.map (·.table) = ["sales"] ∧ e.table.columns.names = ["total", "id"] := by
  have hmoved : MovedBack salesMoved salesCalls :=
    ⟨[], .placing "version" [.str "2"], salesCalls.take 8, salesCalls.drop 9, by decide,
      by decide, rfl, rfl⟩
  obtain ⟨b, hb, e, he, hparts⟩ : ∃ b,
      Builder.make "EntityBuilder" "create" ⟨[.part (.str "sale"), .part (.str "Sale")], []⟩ =
        .ok (.changed (.entity b)) ∧ ∃ e, (b.run salesCalls).build = .ok e ∧
      e.table.name = "sales" ∧ e.indexes.map (·.table) = ["sales"] ∧
      e.table.columns.names = ["total", "id"] := ⟨_, rfl, _, rfl, rfl, rfl, rfl⟩
  obtain ⟨hgathers, hmoves⟩ := build_gathers hb salesCalls he
  exact ⟨b, e, hb, he, hgathers, hmoved, hmoves _ (.inr hmoved), hparts⟩

end Polyschema
