/-
Polyschema.Proofs.Index — the indexes that a migration creates, and their
names.

* `indexName` — the name of an index that is given none: after its table
  and its column.
* `createdIndexes_migrate`, `createsIndex_of_mem` — a migration creates
  the declared indexes, those of flagged columns and those of
  relationships, each by a statement of its script.
* `createdIndexes_nodup_iff` — in an entity without errors the names can
  only clash between these kinds of indexes or between relationships.
-/
import Polyschema.Proofs.Created
import Polyschema.Proofs.ForeignKey

namespace Polyschema

open Polyschema.Text Polyschema.Noted Polyschema.Emit

variable {options : Option Variant} {stamp : Option Stamp}

/-! ## Names -/

/-- The name of an index that is given none. -/
def indexName (table column : String) : String := s!"idx_{table}_{column}"

theorem indexName_injective (table : String) : Function.Injective (indexName table) := by
  intro a b h
  unfold indexName at h
  rwa [String.append_right_inj] at h

/-- The names of the indexes that a relationship needs. -/
def Relationship.indexNames (r : Relationship) : List String :=
  match r.relation, r.junction with
  | .known .manyToMany, some j =>
    [indexName j.name j.localColumn, indexName j.name j.foreignColumn]
  | .known .manyToMany, none => []
  | _, _ =>
    if r.foreignKey.indexed then [indexName r.localSide.name r.foreignKey.localColumn] else []

namespace Entity

/-- The names of the declared indexes. -/
def declaredNames (e : Entity) : List String := e.indexes.map (·.name)

/-- The names of the indexes that flagged columns ask for. -/
def flaggedNames (e : Entity) : List String := e.uncovered.map (indexName e.table.name)

/-- The names of the indexes that relationships need. -/
def linkNames (e : Entity) : List String := e.relationships.flatMap (·.indexNames)

end Entity

/-! ## Statements of a migration -/

theorem indexNames_of_junction {r : Relationship} {j : Junction}
    (hm : r.relation = .known .manyToMany) (hj : r.junction = some j) :
    r.indexNames = [indexName j.name j.localColumn, indexName j.name j.foreignColumn] := by
  rw [Relationship.indexNames, hm, hj]

theorem indexNames_of_direct {r : Relationship} (hm : r.relation ≠ .known .manyToMany) :
    r.indexNames =
      if r.foreignKey.indexed then [indexName r.localSide.name r.foreignKey.localColumn]
      else [] := by
  unfold Relationship.indexNames
  split
  next hr _ => exact absurd hr hm
  next hr _ => exact absurd hr hm
  · rfl

/-- A relationship creates the indexes that it needs. -/
theorem keyIndexes_relationship {r : Relationship} {context : Option Table} {l : Linkage}
    (h : (relationship r options context).outcome = .ok l) :
    l.keyIndexes.map KeyIndex.name = r.indexNames := by
  obtain ⟨-, ⟨j, t, hm, hj, ht, rfl⟩ | ⟨hm, c, rfl⟩⟩ := relationship_ok h
  · rw [indexNames_of_junction hm hj]
    rfl
  · rw [indexNames_of_direct hm]
    by_cases hi : r.foreignKey.indexed = true
    · simp [Linkage.keyIndexes, hi, KeyIndex.name, indexName]
    · simp [Linkage.keyIndexes, hi]

theorem createIndexes_names {e : Entity} {indexes : List Sql.CreateIndex}
    (h : (Sql.createIndexes e options).outcome = .ok indexes) :
    indexes.map (·.name) = e.declaredNames ++ e.flaggedNames := by
  have hnames : indexes.map (·.name) = e.allIndexes.map (·.name) := by
    refine map_eq_of_forall₂ (outcome_each_iff.mp h) fun {i s} hs => ?_
    cases hs
    rfl
  rw [hnames, Entity.allIndexes, List.map_append, List.map_map]
  rfl

/-- A migration creates the declared indexes, then those of flagged
columns, then those of relationships. -/
theorem createdIndexes_migrate {e : Entity} {v : Option String} {m : Migration}
    (h : (migrate e v options stamp).outcome = .ok m) :
    m.createdIndexes = e.declaredNames ++ e.flaggedNames ++ e.linkNames := by
  have hm := migrate_eq_ok.mp h
  have hlinks := map_eq_of_forall₂ (outcome_each_iff.mp hm.links) keyIndexes_relationship
  rw [Migration.createdIndexes, createIndexes_names hm.indexes, List.flatMap_def, hlinks,
    ← List.flatMap_def]
  rfl

/-- The opening of a statement that creates an index. -/
def indexOpening (unique : Bool) (index : String) : String :=
  let unique := if unique then "UNIQUE " else ""
  s!"CREATE {unique}INDEX {index} ON "

/-- A script has the opening of a statement that creates an index. -/
def CreatesIndex (script index : String) : Prop :=
  ∃ unique, (indexOpening unique index).toList <:+: script.toList

theorem createsIndex_lines {line index : String} {pieces : List String} (hl : line ∈ pieces)
    (h : CreatesIndex line index) : CreatesIndex (lines pieces) index := by
  obtain ⟨unique, hpart⟩ := h
  exact ⟨unique, infix_lines hl hpart⟩

theorem createsIndex_opening (unique : Bool) (index rest : String) :
    CreatesIndex (indexOpening unique index ++ rest) index := by
  refine ⟨unique, ?_⟩
  rw [String.toList_append]
  exact (List.prefix_append _ _).isInfix

theorem createsIndex_createIndex (i : Sql.CreateIndex) : CreatesIndex i.text i.name := by
  have htext : i.text = indexOpening i.unique i.name ++
      (i.table ++ Sql.clause " USING " i.methodBefore ++ s!" ({commas i.columns})" ++
        Sql.clause " USING " i.methodAfter ++ Sql.clause " WHERE " i.predicate ++ ";") := by
    unfold Sql.CreateIndex.text indexOpening
    simp only [String.append_assoc]
    rfl
  rw [htext]
  exact createsIndex_opening _ _ _

theorem createsIndex_keyIndex (i : KeyIndex) : CreatesIndex i.text i.name := by
  have htext : i.text = indexOpening i.unique i.name ++ s!"{i.table}({i.column});" := by
    unfold KeyIndex.text indexOpening
    simp only [String.append_assoc]
  rw [htext]
  exact createsIndex_opening _ _ _

theorem createsIndex_linkage {l : Linkage} {i : KeyIndex} (h : i ∈ l.keyIndexes) :
    CreatesIndex l.text i.name := by
  cases l with
  | direct label key index =>
    refine createsIndex_lines ?_ (createsIndex_keyIndex i)
    exact List.mem_cons_of_mem _ (List.mem_cons_of_mem _ (List.mem_map_of_mem h))
  | junction localTable foreignTable junction indexes =>
    refine createsIndex_lines ?_ (createsIndex_keyIndex i)
    exact List.mem_append_right _ (List.mem_map_of_mem h)

/-- The script of a migration has a statement for each index that the
migration creates. -/
theorem createsIndex_of_mem {m : Migration} {index : String} (h : index ∈ m.createdIndexes) :
    CreatesIndex m.text index := by
  rcases List.mem_append.mp h with h | h
  · obtain ⟨i, hi, rfl⟩ := List.mem_map.mp h
    obtain ⟨unique, hpart⟩ := createsIndex_createIndex i
    exact ⟨unique, infix_index hi hpart⟩
  · obtain ⟨l, hl, hindex⟩ := List.mem_flatMap.mp h
    obtain ⟨i, hi, rfl⟩ := List.mem_map.mp hindex
    obtain ⟨unique, hpart⟩ := createsIndex_linkage hi
    exact ⟨unique, infix_link hl hpart⟩

/-! ## Clashes -/

/-- No error is found where the declared names differ. -/
theorem declaredNames_nodup_of_valid {e : Entity}
    (hvalid : Diagnostic.isValid (diagnosticsOf (Check.entity e)) = true) :
    e.declaredNames.Nodup := by
  have hsound := (isValid_diagnosticsOf _).mp hvalid
  unfold Check.entity Check.indexes at hsound
  simp only [sound_append] at hsound
  exact (sound_repeated _ (fun _ => rfl) _).mp hsound.1.2.1

/-- Flagged columns differ, and so do the names made of them. -/
theorem flaggedNames_nodup (e : Entity) : e.flaggedNames.Nodup := by
  refine List.Nodup.map (indexName_injective _) (e.table.columns.distinct.sublist ?_)
  exact List.filter_sublist.map _

/-- A relationship without a defect does not need one name twice: the two
key columns of its junction differ. -/
theorem indexNames_nodup {r : Relationship} {context : Option Table}
    (h : linkDefect? context r = none) : r.indexNames.Nodup := by
  obtain ⟨j, hm, hj, -⟩ | ⟨hm, -⟩ := relationship_of_sound h none
  · rw [linkDefect?_eq, hm, hj] at h
    have hne : j.localColumn ≠ j.foreignColumn := fun heq =>
      junctionDefect?_eq_none_iff.mp (Option.or_eq_none_iff.mp h).1 (.inl heq)
    rw [indexNames_of_junction hm hj]
    simpa using fun heq => hne (indexName_injective j.name heq)
  · rw [indexNames_of_direct hm]
    split
    · exact List.nodup_singleton _
    · exact List.nodup_nil

/-- The migration of an entity without errors does not create two declared
indexes of one name, nor two for flagged columns or two for a single
relationship. So it creates no two indexes of one name exactly where none
for a flagged column is named like a declared one, none of a relationship
like one of these, and none like that of another relationship. -/
theorem createdIndexes_nodup_iff {e : Entity}
    (hvalid : Diagnostic.isValid (diagnosticsOf (Check.entity e)) = true)
    {v : Option String} {m : Migration} (h : (migrate e v options stamp).outcome = .ok m) :
    m.createdIndexes = e.declaredNames ++ e.flaggedNames ++ e.linkNames ∧
    (∀ index ∈ m.createdIndexes, CreatesIndex m.text index) ∧
    e.declaredNames.Nodup ∧ e.flaggedNames.Nodup ∧
    (∀ r ∈ e.relationships, r.indexNames.Nodup) ∧
    (m.createdIndexes.Nodup ↔
      e.declaredNames.Disjoint e.flaggedNames ∧
      (e.declaredNames ++ e.flaggedNames).Disjoint e.linkNames ∧
      e.relationships.Pairwise fun r s => r.indexNames.Disjoint s.indexNames) := by
  have hdeclared := declaredNames_nodup_of_valid hvalid
  have hflagged := flaggedNames_nodup e
  have hlinks : ∀ r ∈ e.relationships, r.indexNames.Nodup := fun r hr =>
    indexNames_nodup (linkDefect?_of_valid hvalid hr)
  have hnames := createdIndexes_migrate h
  refine ⟨hnames, fun _ => createsIndex_of_mem, hdeclared, hflagged, hlinks, ?_⟩
  have hown : (e.declaredNames ++ e.flaggedNames).Nodup ↔
      e.declaredNames.Disjoint e.flaggedNames := by
    rw [List.nodup_append', and_iff_right hdeclared, and_iff_right hflagged]
  have hlinked : e.linkNames.Nodup ↔
      e.relationships.Pairwise fun r s => r.indexNames.Disjoint s.indexNames := by
    rw [Entity.linkNames, List.nodup_flatMap, and_iff_right hlinks]
  rw [hnames, List.nodup_append', hown, hlinked, and_comm (a := e.relationships.Pairwise _)]

/-- Orders of a user, with the column of the user flagged or not. -/
def Entity.ofUser (flagged : Bool) : Entity :=
  let key := Table.ofKey "orders" (.plain .uuid)
  let user : Column := { Column.plain (.plain .uuid) with indexed := flagged }
  .ofLinks { key with columns := key.columns.put "user_id" user }
    [.toOne "orders" "user_id" "users"]

/-- Without the flag there is one index, that of the relationship. -/
theorem createdIndexes_nodup_of_user :
    Diagnostic.isValid (diagnosticsOf (Check.entity (.ofUser false))) = true ∧
    ∃ m, (migrate (.ofUser false) none none none).outcome = .ok m ∧
      m.createdIndexes = ["idx_orders_user_id"] ∧ m.createdIndexes.Nodup := by
  have hvalid : Diagnostic.isValid (diagnosticsOf (Check.entity (.ofUser false))) = true := by
    decide +kernel
  obtain ⟨m, hm⟩ : ∃ m, (migrate (.ofUser false) none none none).outcome = .ok m := ⟨_, rfl⟩
  obtain ⟨hnames, _, _, _, _, honce⟩ := createdIndexes_nodup_iff hvalid hm
  have hnone : (Entity.ofUser false).declaredNames ++ (Entity.ofUser false).flaggedNames = [] :=
    rfl
  refine ⟨hvalid, m, hm, hnames, honce.mpr ⟨List.disjoint_nil_left _, ?_, ?_⟩⟩
  · rw [hnone]
    exact List.disjoint_nil_left _
  · exact List.pairwise_singleton _ _

/-- With the flag no error is found either, and the index of the column is
created a second time for the relationship. -/
theorem flagged_key_indexed_twice :
    Diagnostic.isValid (diagnosticsOf (Check.entity (.ofUser true))) = true ∧
    ∃ m, (migrate (.ofUser true) none none none).outcome = .ok m ∧
      m.createdIndexes = ["idx_orders_user_id", "idx_orders_user_id"] ∧
      ¬ m.createdIndexes.Nodup := by
  refine ⟨by decide +kernel, _, rfl, rfl, by decide⟩

end Polyschema
