/-
Polyschema.Compile.Entity — everything that is emitted for one entity.

* `Generated` — the schema texts, statements and findings.
* `compileEntity` — makes them as the settings say.

Each loss is reported once. The index statements repeat what the SQL
schema reported already, and so does the migration, so their losses only
go to the log.
-/
import Polyschema.Check.Entity
import Polyschema.Emit.Schema
import Polyschema.Migration
import Polyschema.Schema.Config

namespace Polyschema

open Polyschema.Text Polyschema.Emit

/-- Everything that is emitted for one entity. -/
structure Generated where
  entity : String
  schemas : List (Dialect × String)
  relationships : List String
  indexes : List String
  constraints : List String
  migrations : List String
  diagnostics : List Diagnostic

namespace Generated

def schema? (g : Generated) (d : Dialect) : Option String := g.schemas.lookup d

/-- How many lines all the texts have together. -/
def totalLines (g : Generated) : Nat :=
  ((g.schemas.map Prod.snd ++ g.relationships ++ g.indexes ++ g.constraints ++
    g.migrations).map countLines).foldl (· + ·) 0

end Generated

/-- The stamp of a moment: without parts of a second. -/
def Stamp.ofMoment (t : Calendar.Timestamp) : Stamp :=
  match Calendar.Clock.of? t.clock.hour t.clock.minute t.clock.second 0 with
  | some clock => .time { t with clock := clock }
  | none => .time t

def Config.stamp? (c : Config) (now : Calendar.Timestamp) : Option Stamp :=
  if c.includeTimestamp then some (Stamp.ofMoment now) else none

/-- Emission as part of a compilation: its losses go to the log. -/
def logged {α : Type} (m : Emission α) : Noted Event α :=
  m.mapNotes fun l => [.loss l]

/-- Emission whose losses are findings as well. -/
def reported {α : Type} (m : Emission α) : Noted Event (α × List Diagnostic) :=
  ⟨m.notes.map .loss, m.outcome.map fun a => (a, m.notes.map Loss.diagnostic)⟩

def schemaTexts (e : Entity) (dialects : List Dialect) (options : Option Variant) :
    Emission (List (Dialect × String)) :=
  Noted.each (fun d => do pure (d, ← schemaText e d options)) dialects

/-- Everything for one entity. `stamp` is the time that its migration
shows, if any. -/
def compileEntity (c : Config) (e : Entity) (stamp : Option Stamp) :
    Noted Event Generated := do
  let options := some c.variant
  let found := if c.validateFirst then diagnosticsOf (Check.entity e) else []
  let (schemas, schemaLosses) ← reported (schemaTexts e c.dialects options)
  let (links, linkLosses) ← reported (relationships e options)
  let (indexes, indexLosses) ← reported (Sql.createIndexes e options)
  let migration ← logged (migrate e none options stamp)
  let diagnostics := found ++ schemaLosses ++ linkLosses ++
    if c.dialects.contains .sql then [] else indexLosses
  .note (.entityCompiled e.id c.dialects.length links.length
    (Diagnostic.warnings diagnostics).length)
  pure {
    entity := e.id
    schemas := schemas
    relationships := links.map Linkage.text
    indexes := indexes.map Sql.CreateIndex.text
    constraints := (Sql.addConstraints e).map Sql.AddConstraint.text
    migrations := [migration.text]
    diagnostics := diagnostics }

end Polyschema
