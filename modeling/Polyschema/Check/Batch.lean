/-
Polyschema.Check.Batch — what is found on many entities together.

Each entity is looked at alone; then come tables that several entities
produce, relationships that lead out of the batch, and cycles of foreign
keys.
-/
import Polyschema.Check.Cycle
import Polyschema.Check.Entity

namespace Polyschema.Check

open Polyschema.Text

def tableNames (batch : List Entity) : List String := batch.map fun e => e.table.name

def repeatedTables (batch : List Entity) : List Finding :=
  ((counted (tableNames batch)).filter fun (_, n) => 1 < n).map
    fun (name, n) => .repeatedTable name n

/-- The tables outside a batch that a relationship names. -/
def outsideTargets (known : List String) (e : Entity) (r : Relationship) : List Finding :=
  ([r.localSide.name, r.foreignSide.name].filter fun n => !known.contains n).map
    (.unknownTarget e.id r.name)

def unknownTargets (batch : List Entity) : List Finding :=
  batch.flatMap fun e => e.relationships.flatMap (outsideTargets (tableNames batch) e)

/-- The edge of a relationship that puts a foreign key into one table
for another. -/
def edge? (r : Relationship) : Option (String × String) :=
  if r.relation = .known .manyToMany ∨ r.localSide.name = r.foreignSide.name then none
  else some (r.localSide.name, r.foreignSide.name)

/-- The foreign keys between the tables of a batch. -/
def keyGraph (batch : List Entity) : Graph :=
  batch.flatMap fun e => e.relationships.filterMap edge?

def batch (entities : List Entity) : List Finding :=
  entities.flatMap entity ++ repeatedTables entities ++ unknownTargets entities ++
    (keyGraph entities).cycles.map .cycle

end Polyschema.Check
