/-
Polyschema.CommandLine.Run — what a run does.

* `Effect` — a line of the log, a text for one of the two streams, or a
  file to be written.
* `plan` — the effects of a run and the code with which it ends. Nothing
  is printed or written before everything compiled.
* `Outcome`, `perform` — the effects carried out in a folder.
-/
import Polyschema.CommandLine.Options
import Polyschema.Compile.Batch
import Polyschema.Document.File

namespace Polyschema.CommandLine

open Polyschema.Text

/-! ## Codes -/

/-- How a run may end by itself. -/
inductive Ending where
  | success
  /-- The entities have errors. -/
  | invalid
  /-- Something did not compile. -/
  | notCompiled
  /-- The arguments do not ask for anything. -/
  | misused
  /-- There is no document that can be read. -/
  | noInput
  deriving DecidableEq, Repr

def Ending.code : Ending → Nat
  | success => 0
  | invalid => 1
  | notCompiled | misused => 2
  | noInput => 4

/-! ## Effects -/

/-- One thing that a run does. -/
inductive Effect where
  | log (e : Event)
  | print (text : String)
  /-- A text for the second stream. -/
  | report (text : String)
  | write (p : Path) (text : String)

abbrev Plan := Noted Effect

namespace Plan

def log (e : Event) : Plan Unit := .note (.log e)

/-- Work whose notes are lines in the log. -/
def ofEvents {α : Type} (m : Noted Event α) : Plan α := m.mapNotes fun e => [.log e]

end Plan

/-- Whether a document that cannot be loaded is to blame for a fault. -/
def blamesDocument : Fault → Bool
  | .defect _ | .mismatch _ | .complaint _ | .invalid _ | .refused _ => true
  | .misuse .badContent | .misuse .notJson | .file .absent | .foreign _ .content => true
  | .misuse _ | .file _ | .foreign _ _ => false

section

variable (reader : Reader)

/-- The document that stands at a path, or none if it cannot be
loaded. -/
def load (p : Path) (found : FileStatus) : Plan (Option (List Entity × Config)) :=
  let work := Plan.ofEvents (Document.load reader p.text p.extension found)
  match work.outcome with
  | .ok loaded => ⟨work.notes, .ok (some loaded)⟩
  | .error f =>
    if blamesDocument f then
      ⟨work.notes ++ [.log (.notLoaded f.ownMessage?)], .ok none⟩
    else ⟨work.notes, .error f⟩

/-! ## Looking without compiling -/

def reportRule : String := String.ofList (List.replicate 50 '=')

/-- A titled part of the report, which is left out when it is empty. -/
def reportPart (title icon : String) (findings : List Diagnostic) : List String :=
  if findings.isEmpty then []
  else ["", s!"  {title} ({findings.length}):"] ++
    findings.map fun d => s!"    {icon} {d.text}"

def checkReport (name : String) (entities : List Entity) (log : List Diagnostic) :
    String :=
  let valid := if Diagnostic.isValid log then "Yes" else "No"
  let praise :=
    if Diagnostic.isValid log && (Diagnostic.warnings log).isEmpty then
      ["", "  ✅ All validations passed!"]
    else []
  lines (["", reportRule, "  Entity Validation Report", reportRule,
    s!"  File:     {name}", s!"  Entities: {entities.length}", "  Time:     0.000s",
    s!"  Valid:    {valid}"] ++
    reportPart "Errors" "✗" (Diagnostic.errors log) ++
    reportPart "Warnings" "⚠" (Diagnostic.warnings log) ++ praise ++
    [reportRule, "", ""])

/-- A run that only looks at the entities. -/
def checkPlan (o : Options) (p : Path) (found : FileStatus) : Plan Ending := do
  Plan.log (.validating p.text)
  match ← load reader p found with
  | none => pure .noInput
  | some (entities, _) => do
    let log ← Plan.ofEvents (checkBatch entities)
    Noted.noteWhen (!o.quiet) (.print (checkReport p.name entities log))
    pure (if Diagnostic.isValid log then .success else .invalid)

/-! ## Compiling -/

def Options.target (o : Options) : Dialect := o.dialect.getD .sql

/-- The settings of a document with those of the command line in their
place. -/
def Options.configured (o : Options) (c : Config) : Config where
  dialects := [o.target]
  variant := o.variant.getD c.variant
  failOnWarnings := c.failOnWarnings || o.failOnWarnings
  validateFirst := c.validateFirst
  includeTimestamp := c.includeTimestamp || o.timestamp

def compiledOf (r : Report) (entities : List Entity) : List (Entity × Generated) :=
  entities.filterMap fun e => (r.schemas.get? e.id).map (e, ·)

/-- All that compiled as one file of a dialect. In SQL the constraints
and the relationships follow all tables. -/
def schemaFile (r : Report) (entities : List Entity) (d : Dialect) (v : Variant) :
    String :=
  let compiled := compiledOf r entities
  let text := Emit.bundle (compiled.map fun (e, _) => e.table)
    (compiled.map fun (_, g) => (g.schema? d).getD "") d (some v)
  let trailing := match d with
    | .sql => compiled.flatMap fun (_, g) => g.constraints ++ g.relationships
    | _ => []
  (if trailing.isEmpty then text else paragraphs (text :: trailing)) ++ "\n"

/-- A result that goes to a file, if one is named, or is printed. -/
def deliver (home : List String) (output : Option Path) (text : String) : Plan Unit :=
  match output with
  | none => .note (.print text)
  | some p => do
    .note (.write (p.resolved home) text)
    Plan.log (.wrote (p.resolved home).text)

/-- The file of what undoes a migration stands beside that of the
migration. -/
def undoPath (p : Path) : Plan Path :=
  match p.withExtension? (".down" ++ p.extension) with
  | some p => pure p
  | none => .fail (.misuse .badContent)

def deliverAll (o : Options) (home : List String) (entities : List Entity) (c : Config)
    (r : Report) : Plan Unit := do
  let output := o.output.map Path.ofText
  match if o.migration then r.batch else none with
  | some batch => do
    deliver home output batch.upScript
    match output with
    | none => pure ()
    | some p => deliver home (some (← undoPath p)) batch.downScript
  | none => deliver home output (schemaFile r entities o.target c.variant)

def compilePlan (o : Options) (home : List String) (now : Calendar.Timestamp) (p : Path)
    (found : FileStatus) : Plan Ending := do
  match ← load reader p found with
  | none => pure .noInput
  | some (entities, own) => do
    let c := o.configured own
    let r ← Plan.ofEvents (compileBatch c entities o.versionTag now)
    Noted.noteWhen (!o.quiet) (.report (r.summary ++ "\n"))
    if !r.errors.isEmpty then pure .invalid
    else if !r.success then pure .notCompiled
    else do
      deliverAll o home entities c r
      pure .success

/-- What the log says at the end of a compilation. -/
def Ending.event : Ending → Event
  | success => .succeeded
  | other => .ended other.code

/-- What a run does for one who is at `home`, given what stands at the path
of its document. -/
def plan (o : Options) (home : List String) (now : Calendar.Timestamp) (p : Path)
    (found : FileStatus) : Plan Ending := do
  match found with
  | .absent => do
    Plan.log (.noDocument p.text)
    pure .noInput
  | .folder => do
    Plan.log (.notAFile p.text)
    pure .noInput
  | .file _ =>
    if o.validateOnly then checkPlan reader o p found
    else do
      Plan.log (.schemaIs p.text)
      Plan.log (.dialectIs o.target.tag)
      Plan.log (.outputIs (o.output.filter (· != "")))
      let ending ← compilePlan reader o home now p found
      Plan.log ending.event
      pure ending

end

/-! ## Carrying it out -/

/-- Whether an event is worth a line in the log of a run. -/
def Options.logs (o : Options) (e : Event) : Bool :=
  match e.level with
  | .error => true
  | .warning => !o.quiet
  | .info => o.verbose && !o.quiet

/-- What a run left behind. -/
structure Outcome where
  ending : Except Fault Ending
  printed : String
  reported : String
  events : List Event
  folder : Folder

namespace Outcome

/-- Nothing done yet in a folder. -/
def start (f : Folder) (ending : Except Fault Ending) : Outcome := ⟨ending, "", "", [], f⟩

/-- The effects in turn. A file that cannot be written ends the run; the
paths of files are resolved, so it does not matter where one is. -/
def perform (o : Outcome) : List Effect → Outcome
  | [] => o
  | .log e :: rest => perform { o with events := o.events ++ [e] } rest
  | .print s :: rest => perform { o with printed := o.printed ++ s } rest
  | .report s :: rest => perform { o with reported := o.reported ++ s } rest
  | .write p text :: rest =>
    match o.folder.write [] p text true with
    | .ok f => perform { o with folder := f } rest
    | .error f => { o with ending := .error (.file f) }

end Outcome

def versionText : String := "SchemaGen v0.1.0\n"

def usageText : String := lines [
  "usage: schemagen -s PATH [-o FILE] [--validate-only] [--migration]",
  "                 [--dialect sql|drizzle|prisma|convex]",
  "                 [--sql-variant postgres|mysql|sqlite] [--version-tag V]",
  "                 [--fail-on-warnings] [--timestamp] [-v] [-q]",
  "                 [--version] [-h]", ""]

def runIn (reader : Reader) (f : Folder) (home : List String) (now : Calendar.Timestamp)
    (o : Options) : Outcome :=
  let p := (Path.ofText o.schema).resolved home
  match f.status home p with
  | .error fault => .start f (.error (.file fault))
  | .ok found =>
    let work := plan reader o home now p found
    let done := (Outcome.start f work.outcome).perform work.notes
    { done with events := done.events.filter o.logs }

end Polyschema.CommandLine
