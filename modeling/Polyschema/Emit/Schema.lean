/-
Polyschema.Emit.Schema — tables and entities in any dialect.

* `columnText` — one column type with its modifiers.
* `tableText` — one table.
* `schemaText` — an entity: its table with its indexes.
* `bundle` — many rendered texts as one file.
-/
import Polyschema.Emit.Convex
import Polyschema.Emit.Drizzle
import Polyschema.Emit.Prisma
import Polyschema.Emit.Sql

namespace Polyschema

open Polyschema.Text

namespace Emit

open Emitting

variable {M : Type → Type} [Emitting M]

def columnText (t : ColumnType) (d : Dialect) (name : String) (options : Option Variant) :
    Emission String :=
  match d with
  | .sql => Sql.column t name options none none
  | .drizzle => Drizzle.column t name options none
  | .prisma => Prisma.column t name options none
  | .convex => Convex.column t name options none

/-- A table in a dialect, with indexes where the dialect has them in the
table. -/
def tableWith (t : Table) (d : Dialect) (options : Option Variant)
    (indexes : List Index) (modelName : Option String) : M String :=
  match d with
  | .sql => do pure (← Sql.createTable t options).text
  | .drizzle => Drizzle.table t options indexes
  | .prisma => Prisma.model t options indexes modelName
  | .convex => Convex.table t options indexes

def tableText (t : Table) (d : Dialect) (options : Option Variant) : M String :=
  tableWith t d options [] none

/-- The table and the indexes of an entity in a dialect. In SQL the
indexes are statements after the table. -/
def schemaText (e : Entity) (d : Dialect) (options : Option Variant) : Emission String :=
  match d with
  | .sql => do
    let table ← Sql.createTable e.table options
    let indexes ← Sql.createIndexes e options
    pure (paragraphs (table.text :: indexes.map Sql.CreateIndex.text))
  | d => tableWith e.table d options e.allIndexes (some (pascal e.name.singular))

def bundle (tables : List Table) (rendered : List String) (d : Dialect)
    (options : Option Variant) : String :=
  match d with
  | .sql => paragraphs rendered
  | .drizzle => Drizzle.bundle rendered
  | .prisma => Prisma.bundle options rendered
  | .convex => Convex.bundle tables rendered

def tablesText (tables : List Table) (d : Dialect) (options : Option Variant) :
    Emission String := do
  let rendered ← Noted.each (fun t => tableText t d options) tables
  pure (bundle tables rendered d options)

end Emit

end Polyschema
