/-
Polyschema.Proofs.Uncommented — entities without their free text.

* `Table.uncommented`, `Entity.uncommented` — a table without comments, and
  an entity without comments and without its description.
* `resolveKey_uncommented`, `columnIn_uncommented` — comments change neither
  the key of a table nor its columns.
* `createIndexes_uncommented`, `relationships_uncommented` — nor the indexes
  and the relationships of an entity in SQLite.
-/
import Polyschema.Proofs.Migration

namespace Polyschema

open Polyschema.Noted Polyschema.Emit

/-! ## Parts by name -/

namespace Keyed

variable {α β : Type} (f : String → α → β) (k : Keyed α)

theorem names_mapValues : (k.mapValues f).names = k.names := by
  simp [names, mapValues, Function.comp_def]

theorem has_mapValues (name : String) : (k.mapValues f).has name = k.has name := by
  rw [has, names_mapValues, has]

theorem get?_mapValues (name : String) :
    (k.mapValues f).get? name = (k.get? name).map (f name) := by
  obtain ⟨entries, hdistinct⟩ := k
  show (entries.map fun e => (e.1, f e.1 e.2)).lookup name = (entries.lookup name).map (f name)
  clear hdistinct
  induction entries with
  | nil => rfl
  | cons e rest ih =>
    rw [List.map_cons, List.lookup_cons, List.lookup_cons, ih]
    cases h : name == e.1 with
    | true => simp [eq_of_beq h]
    | false => rfl

end Keyed

/-! ## Without free text -/

/-- A column without its comment. -/
def Column.uncommented (c : Column) : Column := { c with comment := none }

/-- Columns without their comments. -/
def Keyed.uncommented (columns : Keyed Column) : Keyed Column :=
  columns.mapValues fun _ c => c.uncommented

/-- A table without its comment and those of its columns. -/
def Table.uncommented (t : Table) : Table :=
  { t with columns := t.columns.uncommented, comment := none }

def Side.uncommented : Side → Side
  | named name => named name
  | linked table => linked table.uncommented

def Junction.uncommented (j : Junction) : Junction :=
  { j with extras := j.extras.uncommented }

def Relationship.uncommented (r : Relationship) : Relationship :=
  { r with
    localSide := r.localSide.uncommented
    foreignSide := r.foreignSide.uncommented
    junction := r.junction.map Junction.uncommented }

/-- An entity without its description and all comments. -/
def Entity.uncommented (e : Entity) : Entity :=
  { e with
    description := none
    table := e.table.uncommented
    relationships := e.relationships.map Relationship.uncommented }

/-! ## Tables -/

namespace Table

variable (t : Table)

theorem has_uncommented (name : String) : t.uncommented.columns.has name = t.columns.has name :=
  Keyed.has_mapValues ..

theorem flagged_uncommented : t.uncommented.flagged = t.flagged := by
  simp [flagged, uncommented, Keyed.uncommented, Keyed.mapValues, List.filter_map,
    Function.comp_def, Column.uncommented]

theorem firstAbsent?_uncommented : t.uncommented.firstAbsent? = t.firstAbsent? := by
  funext names
  simp only [firstAbsent?, has_uncommented]

/-- A table has the same key without its comments. -/
theorem resolveKey_uncommented : t.uncommented.resolveKey = t.resolveKey := by
  unfold resolveKey absentReference?
  rw [firstAbsent?_uncommented, flagged_uncommented]
  rfl

end Table

/-! ## Columns -/

namespace Emit

variable {options : Option Variant}

/-- In SQLite a column has no clause for its comment. -/
theorem definition_uncommented (h : Variant.ofOptions options = .sqlite) (name : String)
    (c : Column) : Sql.definition name c.uncommented options = Sql.definition name c options := by
  have hclause (comment : Option String) :
      Sql.commentClause (Variant.ofOptions options) comment = none := by
    rw [h]
    exact if_neg (by simp)
  unfold Sql.definition Sql.column
  unfold Sql.columnParts
  simp only [hclause]
  rfl

/-- The text of a column does not have its comment. -/
theorem columnIn_uncommented {d : Dialect} (h : d = .sql → Variant.ofOptions options = .sqlite)
    (key : List String) (name : String) (c : Column) :
    columnIn d key options name c.uncommented = columnIn d key options name c := by
  cases d with
  | sql => exact definition_uncommented (h rfl) name c
  | drizzle => rfl
  | prisma => rfl
  | convex => rfl

/-! ## Indexes -/

theorem createIndexes_uncommented (e : Entity) :
    Sql.createIndexes e.uncommented options = Sql.createIndexes e options := by
  have huncovered : e.uncommented.uncovered = e.uncovered := by
    simp [Entity.uncovered, Entity.uncommented, Table.uncommented, Keyed.uncommented,
      Keyed.mapValues, List.filter_map, Function.comp_def, Column.uncommented]
  rw [Sql.createIndexes, Entity.allIndexes, huncovered]
  rfl

/-! ## Relationships -/

theorem name_uncommented (s : Side) : s.uncommented.name = s.name := by
  cases s <;> rfl

theorem within_uncommented (s : Side) (context : Option Table) :
    s.uncommented.within (context.map Table.uncommented) =
      (s.within context).map Table.uncommented := by
  cases s with
  | named name =>
    show (context.map Table.uncommented).filter (fun t => t.name == name) = _
    rw [Option.filter_map]
    rfl
  | linked table => rfl

theorem absentColumn?_uncommented (relationship : String) (side : Option Table)
    (column : String) : absentColumn? relationship (side.map Table.uncommented) column =
      absentColumn? relationship side column := by
  cases side with
  | none => rfl
  | some t => simp only [absentColumn?, Option.map_some, Option.bind_some, t.has_uncommented]; rfl

theorem junctionDefect?_uncommented (relationship : String) (j : Junction) :
    junctionDefect? relationship j.uncommented = junctionDefect? relationship j := by
  unfold junctionDefect?
  rw [show j.uncommented.extras.names = j.extras.names from Keyed.names_mapValues ..]
  rfl

theorem linkDefect?_uncommented (context : Option Table) (r : Relationship) :
    linkDefect? (context.map Table.uncommented) r.uncommented = linkDefect? context r := by
  obtain ⟨name, relation, localSide, foreignSide, foreignKey, junction, description⟩ := r
  simp only [linkDefect?, Relationship.uncommented, within_uncommented,
    absentColumn?_uncommented, name_uncommented]
  cases junction with
  | none => rfl
  | some j => simp only [Option.map_some, junctionDefect?_uncommented]

theorem keyType_uncommented (side : Option Table) (column : String) :
    keyType (side.map Table.uncommented) column options = keyType side column options := by
  cases side with
  | none => rfl
  | some t =>
    have hcolumn : t.uncommented.columns.get? column =
        (t.columns.get? column).map Column.uncommented := Keyed.get?_mapValues ..
    unfold keyType
    rw [Option.map_some, Option.bind_some, Option.bind_some, hcolumn]
    cases t.columns.get? column <;> rfl

theorem junctionLink_uncommented (h : Variant.ofOptions options = .sqlite) (j : Junction)
    (r : Relationship) (context : Option Table) :
    junctionLink j.uncommented r.uncommented options (context.map Table.uncommented) =
      junctionLink j r options context := by
  have hextras : j.uncommented.extras.entries =
      j.extras.entries.map fun e => (e.1, e.2.uncommented) := rfl
  simp only [junctionLink, Relationship.uncommented, within_uncommented, keyType_uncommented,
    name_uncommented, hextras, each_map, definition_uncommented h]
  rfl

theorem directLink_uncommented (c : Cardinality) (r : Relationship) :
    directLink c r.uncommented options = directLink c r options := by
  simp only [directLink, foreignKeyLosses, addForeignKey, Relationship.uncommented,
    name_uncommented]
  rfl

theorem relationship_uncommented (h : Variant.ofOptions options = .sqlite) (r : Relationship)
    (context : Option Table) :
    relationship r.uncommented options (context.map Table.uncommented) =
      relationship r options context := by
  have hdirect (c : Cardinality) : directLink c r.uncommented options = directLink c r options :=
    directLink_uncommented c r
  have hjunction (j : Junction) := junctionLink_uncommented h j r context
  have hdefect := linkDefect?_uncommented context r
  obtain ⟨name, relation, localSide, foreignSide, foreignKey, junction, description⟩ := r
  unfold relationship
  rw [hdefect]
  cases linkDefect? context _ with
  | some d => rfl
  | none =>
    cases relation with
    | unknown tag => simp only [Relationship.uncommented, name_uncommented]
    | known c =>
      cases junction with
      | none => cases c <;> exact hdirect _
      | some j =>
        cases c with
        | manyToMany => exact hjunction j
        | _ => exact hdirect _

/-- In SQLite the relationships of an entity do not have its comments. -/
theorem relationships_uncommented (h : Variant.ofOptions options = .sqlite) (e : Entity) :
    relationships e.uncommented options = relationships e options := by
  unfold relationships
  rw [show e.uncommented.relationships = e.relationships.map Relationship.uncommented from rfl,
    each_map]
  exact congrArg (each · e.relationships)
    (funext fun r => relationship_uncommented h r (some e.table))

end Emit

end Polyschema
