/-
Polyschema.Migration — migration scripts for entities.

* `Migration` — the statements for one entity, in an order in which
  every statement refers only to what was created before it.
* `migrate` — the migration of an entity.
* `Batch`, `migrateAll` — the migrations of many entities, each with the
  statement that undoes its table. An entity with a structural defect is
  recorded as a failure and does not stop the others.
-/
import Polyschema.Calendar.Timestamp
import Polyschema.Emit.Relationship
import Polyschema.Event

namespace Polyschema

open Polyschema.Text Polyschema.Emit

/-! ## One entity -/

/-- When a migration was made. -/
inductive Stamp where
  | time (t : Calendar.Timestamp)
  | value (v : Value)

def Stamp.text : Stamp → String
  | time t => t.text
  | value (.timestamp t) => t.text
  | value v => v.text

/-- The statements of a migration with what its header says. -/
structure Migration where
  entity : String
  version : String
  description : String
  stamp : Option Stamp
  table : Sql.CreateTable
  indexes : List Sql.CreateIndex
  constraints : List Sql.AddConstraint
  links : List Linkage

namespace Migration

/-- A titled section of statements; without statements there is none. -/
def sectionLines (title entity : String) (statements : List String) : List String :=
  if statements.isEmpty then []
  else "" :: s!"-- {title} for {entity}" :: statements

def header (m : Migration) : List String := [
  s!"-- Migration: Create {m.table.name} table",
  s!"-- Entity: {m.entity}",
  s!"-- Version: {m.version}",
  s!"-- Description: {m.description}"] ++
  m.stamp.toList.map fun s => s!"-- Generated: {s.text}"

def text (m : Migration) : String :=
  lines (m.header ++ ["", m.table.text] ++
    sectionLines "Create indexes" m.entity (m.indexes.map Sql.CreateIndex.text) ++
    sectionLines "Create constraints" m.entity (m.constraints.map Sql.AddConstraint.text) ++
    sectionLines "Create relationships" m.entity (m.links.map Linkage.text)) ++ "\n"

def createdTables (m : Migration) : List String :=
  m.table.name :: m.links.flatMap Linkage.createdTables

def createdIndexes (m : Migration) : List String :=
  m.indexes.map (·.name) ++ m.links.flatMap fun l => l.keyIndexes.map KeyIndex.name

end Migration

/-- What a migration says of itself where the entity has no
description. -/
def defaultDescription (e : Entity) : String := s!"Create {e.name.singular} entity table"

/-- The migration of an entity. Without a version it has that of the
entity. -/
def migrate (e : Entity) (version : Option String) (options : Option Variant)
    (stamp : Option Stamp) : Emission Migration := do
  let table ← Sql.createTable e.table options
  let indexes ← Sql.createIndexes e options
  let links ← relationships e options
  pure {
    entity := e.id
    version := version.getD e.version
    description := (e.description.filter (· != "")).getD (defaultDescription e)
    stamp := stamp
    table := table
    indexes := indexes
    constraints := Sql.addConstraints e
    links := links }

/-! ## Many entities -/

/-- Why an entity of a batch has no migration. -/
structure Failure where
  entity : String
  code : String
  subject : Option String
  message : String
  deriving DecidableEq, Repr

namespace Failure

def text (f : Failure) : String :=
  let subject := match f.subject with
    | some s => if s = "" then "" else s!" ({s})"
    | none => ""
  s!"{f.entity}: [{f.code}]{subject} {f.message}"

def ofDefect (entity : String) (d : Defect) : Failure :=
  ⟨entity, d.code, d.subject, d.message⟩

end Failure

def dropStatement (table : String) : String := s!"DROP TABLE IF EXISTS {table} CASCADE;"

/-- The scripts for many entities: one up and one down for each entity
that compiles, in the order of the entities. -/
structure Batch where
  up : List String
  down : List String
  version : String
  description : String
  failures : List Failure
  warnings : List Diagnostic

namespace Batch

def success (b : Batch) : Bool := b.failures.isEmpty

/-- A final line feed after what is not empty. -/
def ended (pieces : List String) (text : String) : String :=
  if pieces.isEmpty then text else text ++ "\n"

def upScript (b : Batch) : String := ended b.up (paragraphs b.up)

def downScript (b : Batch) : String := ended b.down (lines b.down)

def summary (b : Batch) : String :=
  lines ((s!"Migration batch {b.version}: {b.up.length} migration(s), " ++
    s!"{b.failures.length} failure(s), {b.warnings.length} warning(s).") ::
    b.failures.map fun f => s!"  ✗ {f.text}")

end Batch

/-- What became of one entity of a batch. -/
inductive Migrated where
  | compiled (m : Migration) (losses : List Loss)
  | failed (f : Failure)

/-- An entity migrated. Only a defect of the schema is recorded; any
other fault is passed on. -/
def migrateOne (e : Entity) (version : String) (options : Option Variant)
    (stamp : Option Stamp) : Noted Event Migrated :=
  let work := migrate e (some version) options stamp
  let losses := work.notes.map Event.loss
  match work.outcome with
  | .ok m => ⟨losses, .ok (.compiled m work.notes)⟩
  | .error (.defect d) =>
    ⟨losses ++ [.migrationFailed e.id d], .ok (.failed (.ofDefect e.id d))⟩
  | .error f => ⟨losses, .error f⟩

namespace Migrated

def migration? : Migrated → Option Migration
  | compiled m _ => some m
  | failed _ => none

def failure? : Migrated → Option Failure
  | compiled _ _ => none
  | failed f => some f

def losses : Migrated → List Loss
  | compiled _ losses => losses
  | failed _ => []

end Migrated

def Batch.ofMigrated (version : String) (results : List Migrated) : Batch :=
  let migrations := results.filterMap Migrated.migration?
  { up := migrations.map Migration.text
    down := migrations.map fun m => dropStatement m.table.name
    version := version
    description :=
      s!"Create tables for entities: {commas (migrations.map (·.entity))}"
    failures := results.filterMap Migrated.failure?
    warnings := (results.flatMap Migrated.losses).map Loss.diagnostic }

def migrateAll (entities : List Entity) (version : String) (options : Option Variant)
    (stamp : Option Stamp) : Noted Event Batch := do
  let results ← Noted.each (fun e => migrateOne e version options stamp) entities
  let batch := Batch.ofMigrated version results
  .note (.migrated version batch.up.length batch.failures.length)
  pure batch

end Polyschema
