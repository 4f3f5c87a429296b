/-
Polyschema.Check.Entity — what is found on one table and one entity.

* `tableName`, `columnNames`, `primaryKey` — findings on a table.
* `indexes`, `relationships` — findings on an entity.
* `entity` — all of them.
-/
import Polyschema.Check.Finding
import Polyschema.Schema.Entity
import Polyschema.Text.Name
import Polyschema.Text.Sorted

namespace Polyschema.Check

open Polyschema.Text

/-! ## Tables -/

def tableName (t : Table) : List Finding :=
  if !isIdentifier t.name then [.badTableName t.name]
  else if isReserved t.name then [.reservedTableName t.name]
  else []

def columnName (table column : String) : List Finding :=
  if !isIdentifier column then [.badColumnName table column]
  else if isReserved column then [.reservedColumnName table column]
  else []

def columnNames (t : Table) : List Finding :=
  t.columnNames.flatMap (columnName t.name)

def nullableKeys (t : Table) (key : List String) : List Finding :=
  (key.filter fun n => (t.columns.get? n).any (·.nullable)).map (.nullableKey t.name)

def uniqueColumns (t : Table) : List Finding :=
  (t.uniques.flatten.filter fun n => !t.columns.has n).map (.absentUniqueColumn t.name)

def primaryKey (t : Table) : List Finding :=
  let declared := t.primaryKey
  let flagged := t.flagged
  if declared.isEmpty && flagged.isEmpty then [.noKey t.name]
  else
    (declared.filter fun n => !t.columns.has n).map (.absentKeyColumn t.name) ++
    (if declared.isEmpty && 1 < flagged.length then [.manyFlagged t.name flagged] else []) ++
    (if !declared.isEmpty && !flagged.isEmpty && !Table.sameMembers declared flagged then
      [.keysDisagree t.name declared flagged] else []) ++
    (if declared.isEmpty then [.keyUndeclared t.name] else []) ++
    nullableKeys t (if declared.isEmpty then flagged else declared) ++
    uniqueColumns t

/-! ## Entities -/

/-- The index names that an entity declares more than once. -/
def repeatedIndexes (e : Entity) : List Finding :=
  ((counted (e.indexes.map Index.name)).filter fun (_, n) => 1 < n).map
    fun (name, n) => .repeatedIndex e.id name n

def index (e : Entity) (i : Index) : List Finding :=
  if i.table ≠ e.table.name then [.indexElsewhere e.id i.name i.table e.table.name]
  else (i.columns.filter fun n => !e.table.columns.has n).map (.absentIndexColumn e.id i.name)

def indexes (e : Entity) : List Finding :=
  repeatedIndexes e ++ e.indexes.flatMap (index e)

/-- The finding of a column that a known side does not have. -/
def reference (relationship side : String) (table : Option Table) (column : String) :
    List Finding :=
  match table with
  | some t =>
    if t.columns.has column then [] else [.absentReference relationship side t.name column]
  | none => []

/-- Findings on the junction of a many-to-many relationship. -/
def junction (entity relationship : String) : Option Junction → List Finding
  | none => [.noJunction entity relationship]
  | some j =>
    if j.localColumn = j.foreignColumn ∨
        j.extras.names.any (fun n => n == j.localColumn || n == j.foreignColumn) then
      [.junctionCollision entity relationship j.name]
    else []

/-- Findings on one relationship of an entity. A side named like the
entity's own table is that table. -/
def relationship (e : Entity) (r : Relationship) : List Finding :=
  match r.relation with
  | .unknown tag => [.unknownRelation e.id r.name tag]
  | .known c =>
    reference r.name "local" (r.localSide.within (some e.table)) r.foreignKey.localColumn ++
    reference r.name "foreign" (r.foreignSide.within (some e.table))
      r.foreignKey.foreignColumn ++
    if c = .manyToMany then junction e.id r.name r.junction else []

def relationships (e : Entity) : List Finding := e.relationships.flatMap (relationship e)

def entity (e : Entity) : List Finding :=
  tableName e.table ++ columnNames e.table ++ primaryKey e.table ++ indexes e ++
    relationships e

end Polyschema.Check
