/-
Polyschema.Event — what is worth a line in the log while entities are
compiled.

* `Event` — the occasions.
* `Event.level`, `source`, `message` — the line.
-/
import Polyschema.Emit.Loss

namespace Polyschema

open Polyschema.Text

/-- An occasion for a line in the log. -/
inductive Event where
  | loss (l : Loss)
  /-- A batch was looked at before anything is emitted. -/
  | checked (findings : List Diagnostic)
  /-- An error found in looking at a batch. -/
  | finding (d : Diagnostic)
  | migrationFailed (entity : String) (d : Defect)
  | migrated (version : String) (compiled failed : Nat)
  | entityCompiled (entity : String) (dialects relationships warnings : Nat)
  | entityFailed (entity : String) (d : Defect)
  | unknownExtension (extension : String)
  | parsed (entities : Nat)
  | noDocument (path : String)
  | notAFile (path : String)
  /-- A document could not be loaded, for a reason that may be known. -/
  | notLoaded (reason : Option String)
  | validating (path : String)
  | schemaIs (path : String)
  | dialectIs (tag : String)
  | outputIs (path : Option String)
  | wrote (path : String)
  | succeeded
  | ended (exitCode : Nat)

namespace Event

def level : Event → Level
  | loss _ => .warning
  | checked findings => if Diagnostic.isValid findings then .info else .error
  | finding _ | migrationFailed _ _ | entityFailed _ _ | noDocument _ | notAFile _
  | notLoaded _ | ended _ => .error
  | migrated _ _ _ | entityCompiled _ _ _ _ | unknownExtension _ | parsed _
  | validating _ | schemaIs _ | dialectIs _ | outputIs _ | wrote _ | succeeded => .info

/-- The part of the program that an occasion belongs to. -/
def source : Event → String
  | loss l => match l.source with
    | .tables => "schemagen.emitters"
    | .relationships => "schemagen.relationships"
  | checked _ => "schemagen.validators"
  | migrationFailed _ _ | migrated _ _ _ => "schemagen.migrations"
  | finding _ | entityCompiled _ _ _ _ | entityFailed _ _ | unknownExtension _
  | parsed _ => "schemagen.compiler"
  | noDocument _ | notAFile _ | notLoaded _ | validating _ | schemaIs _ | dialectIs _
  | outputIs _ | wrote _ | succeeded | ended _ => "schemagen"

def message : Event → String
  | loss l => s!"{l.code}: {l.message}"
  | checked findings =>
    if Diagnostic.isValid findings then
      s!"Batch validation passed: {Diagnostic.summaryText findings}"
    else s!"Batch validation FAILED: {Diagnostic.summaryText findings}"
  | finding d => s!"  ✗ {d.text}"
  | migrationFailed entity d => s!"Entity '{entity}' failed to compile: {d.text}"
  | migrated version compiled failed =>
    s!"Migration batch {version}: {compiled} compiled, {failed} failed"
  | entityCompiled entity dialects relationships warnings =>
    s!"Compiled entity '{entity}': {dialects} dialect(s), " ++
      s!"{relationships} relationship(s), {warnings} warning(s)."
  | entityFailed entity d => s!"Entity '{entity}' failed: {d.text}"
  | unknownExtension extension =>
    s!"Unknown extension '{extension}' — trying JSON then YAML."
  | parsed entities => s!"Parsed {entities} entities from document."
  | noDocument path => s!"Entity document not found: {path}"
  | notAFile path => s!"Entity document path is not a file: {path}"
  | notLoaded reason => match reason with
    | some reason => s!"Failed to load entities: {reason}"
    | none => "Failed to load entities"
  | validating path => s!"Running validation-only mode for: {path}"
  | schemaIs path => s!"Schema:   {path}"
  | dialectIs tag => s!"Dialect:  {tag}"
  | outputIs path => "Output:   " ++ path.getD "<stdout>"
  | wrote path => s!"Wrote {path}"
  | succeeded => "Compilation completed successfully."
  | ended exitCode => s!"Compilation failed with exit code {exitCode}."

end Event

end Polyschema
