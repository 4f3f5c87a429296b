/-
Polyschema.Schema.Entity — the whole that is compiled: a table with its
indexes, constraints and relationships.

* `Entity` — the whole.
* `Entity.allIndexes` — the declared indexes and those that flagged
  columns ask for.
-/
import Polyschema.Schema.Relationship

namespace Polyschema

open Polyschema.Text

/-- How an index finds its rows. -/
inductive AccessMethod where
  | btree
  | hash
  | gist
  | gin
  deriving DecidableEq, Repr, Inhabited

namespace AccessMethod

def all : List AccessMethod := [btree, hash, gist, gin]

def tag : AccessMethod → String
  | btree => "btree"
  | hash => "hash"
  | gist => "gist"
  | gin => "gin"

def ofTag? (s : String) : Option AccessMethod := all.find? (·.tag == s)

/-- A name stands for the access method it was written for. -/
theorem ofTag?_tag (m : AccessMethod) : ofTag? m.tag = some m := by
  cases m <;> decide

end AccessMethod

/-- An index. -/
structure Index where
  name : String
  table : String
  columns : List String
  unique : Bool
  predicate : Option String
  method : Option AccessMethod
  deriving DecidableEq, Repr

/-- What a named constraint demands. -/
inductive ConstraintKind where
  | check
  | foreignKey
  | unique
  | primaryKey
  deriving DecidableEq, Repr, Inhabited

namespace ConstraintKind

def all : List ConstraintKind := [check, foreignKey, unique, primaryKey]

def tag : ConstraintKind → String
  | check => "check"
  | foreignKey => "foreign-key"
  | unique => "unique"
  | primaryKey => "primary-key"

def ofTag? (s : String) : Option ConstraintKind := all.find? (·.tag == s)

/-- A name stands for the kind it was written for. -/
theorem ofTag?_tag (k : ConstraintKind) : ofTag? k.tag = some k := by
  cases k <;> decide

end ConstraintKind

/-- A named constraint on a table. -/
structure Constraint where
  name : String
  table : String
  kind : ConstraintKind
  definition : String
  deriving DecidableEq, Repr

/-- What an entity is called. -/
structure EntityName where
  singular : String
  plural : String
  display : Option String
  database : Option String
  deriving DecidableEq, Repr

/-- The whole that is compiled. Its field notes are for other tools. -/
structure Entity where
  id : String
  name : EntityName
  version : String
  description : Option String
  table : Table
  fields : List (String × Value)
  relationships : List Relationship
  indexes : List Index
  constraints : List Constraint

namespace Entity

def shown (e : Entity) : String :=
  s!"<Entity {e.id} table={e.table.name} " ++
    s!"({e.relationships.length} rels, {e.indexes.length} idx)>"

def columnIndex (table column : String) : Index where
  name := s!"idx_{table}_{column}"
  table := table
  columns := [column]
  unique := false
  predicate := none
  method := none

/-- The flagged columns that no declared index covers alone. -/
def uncovered (e : Entity) : List String :=
  (e.table.columns.entries.filter fun (name, c) =>
    c.indexed && !e.indexes.any (·.columns == [name])).map Prod.fst

/-- The declared indexes, then one for each flagged column that none of
them covers alone. -/
def allIndexes (e : Entity) : List Index :=
  e.indexes ++ e.uncovered.map (columnIndex e.table.name)

end Entity

end Polyschema
