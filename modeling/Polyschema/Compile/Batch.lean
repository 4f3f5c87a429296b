/-
Polyschema.Compile.Batch — the whole way from entities to migrations.

* `compileBatch` — looks at the entities, compiles each of them and puts
  the migrations together.

An entity with a structural defect becomes a failure and does not stop
the others; where the settings say so, warnings are failures too.
-/
import Polyschema.Check.Batch
import Polyschema.Compile.Report

namespace Polyschema

open Polyschema.Text

/-- The outcome of one entity. -/
inductive Compiled where
  | done (e : Entity) (g : Generated)
  | failed (f : Failure)

namespace Compiled

def done? : Compiled → Option (Entity × Generated)
  | done e g => some (e, g)
  | failed _ => none

def failure? : Compiled → Option Failure
  | done _ _ => none
  | failed f => some f

end Compiled

/-- The failure of an entity whose warnings are not let through. -/
def warningsFailure (e : Entity) (count : Nat) : Failure :=
  ⟨e.id, "DB_WARNINGS_AS_ERRORS", none, s!"{count} warning(s) treated as errors."⟩

/-- One entity in isolation. Faults that are no defects of the schema
are passed on. -/
def compileOne (c : Config) (stamp : Option Stamp) (e : Entity) : Noted Event Compiled :=
  let work := compileEntity c e stamp
  match work.outcome with
  | .ok g =>
    let count := (Diagnostic.warnings g.diagnostics).length
    if c.failOnWarnings && 0 < count then ⟨work.notes, .ok (.failed (warningsFailure e count))⟩
    else ⟨work.notes, .ok (.done e g)⟩
  | .error (.defect d) =>
    ⟨work.notes ++ [.entityFailed e.id d], .ok (.failed (.ofDefect e.id d))⟩
  | .error f => ⟨work.notes, .error f⟩

/-- What a look at the entities says in short. -/
def checkDetail (log : List Diagnostic) : String :=
  if !Diagnostic.isValid log then s!"{(Diagnostic.errors log).length} error(s)"
  else if !(Diagnostic.warnings log).isEmpty then
    s!"{(Diagnostic.warnings log).length} warning(s)"
  else "all checks passed"

def checkBatch (entities : List Entity) : Noted Event (List Diagnostic) :=
  let log := diagnosticsOf (Check.batch entities)
  ⟨[.checked log], .ok log⟩

/-- The step that looks at the entities, where the settings ask for
it. -/
def checkStep (c : Config) (entities : List Entity) :
    Noted Event (List Diagnostic × List Step) := do
  if c.validateFirst then
    let log ← checkBatch entities
    (⟨(Diagnostic.errors log).map .finding, .ok ()⟩ : Noted Event Unit)
    pure (log, [⟨"Validate Entities", Diagnostic.isValid log, checkDetail log⟩])
  else pure ([], [])

def compileStep (compiled total lineCount : Nat) : Step :=
  ⟨"Compile Schemas", compiled == total,
    s!"{compiled}/{total} entities, ~{grouped lineCount} lines"⟩

/-- The step that puts the migrations together, in short. -/
def migrationStep (b : Batch) : Step :=
  ⟨"Assemble Migrations", b.success, s!"{b.up.length} up / {b.down.length} down"⟩

/-- The whole way for many entities. `now` is the time at which it is
done. -/
def compileBatch (c : Config) (entities : List Entity) (version : String)
    (now : Calendar.Timestamp) : Noted Event Report := do
  let stamp := c.stamp? now
  let (log, checkSteps) ← checkStep c entities
  let results ← Noted.each (compileOne c stamp) entities
  let compiled := results.filterMap Compiled.done?
  let schemas := Keyed.ofList (compiled.map fun (e, g) => (e.id, g))
  let lineCount := (schemas.entries.map fun (_, g) => g.totalLines).foldl (· + ·) 0
  let batch ← migrateAll (compiled.map Prod.fst) version (some c.variant) stamp
  let failures := results.filterMap Compiled.failure? ++ batch.failures
  let errors := (Diagnostic.errors log).map Diagnostic.text
  pure {
    success := failures.isEmpty && errors.isEmpty
    version := version
    totalEntities := entities.length
    compiledEntities := compiled.length
    totalLines := lineCount
    steps := checkSteps ++
      [compileStep compiled.length entities.length lineCount, migrationStep batch]
    schemas := schemas
    batch := some batch
    errors := errors
    warnings := (Diagnostic.warnings log).map Diagnostic.text
    failures := failures }

end Polyschema
