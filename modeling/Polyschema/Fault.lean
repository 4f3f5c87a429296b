/-
Polyschema.Fault — every way in which a task can fail.

* `Refusal` — a request that is turned down with a message of its own.
* `Fault` — a defect of the schema, a value outside its type, fields
  that do not make a model, a refusal, a misused value, or what a function
  of somebody else's raises.
* `ReadFault` — what a reader of a format raises.
-/
import Polyschema.Defect
import Polyschema.Intake.Reading

namespace Polyschema

/-- A request turned down. -/
inductive Refusal where
  /-- A default was asked for without a value. -/
  | emptyDefault
  | notDecimal (given : Value)
  | noRelation (relationship : String)
  | noSides (relationship : String)
  | noForeignKey (relationship : String)
  | badDocument (problems : List Problem)
  /-- A piece of an entity cannot be made; the piece is named by its
  model. -/
  | badEntity (entity model : String) (problems : List Problem)
  | repeatedEntity (entity : String)
  | notAFile (path : String)
  | badJson (path : String)
  | badYaml (path : String)
  | notAnObject (kind : String)
  | notAMapping (kind : String)

namespace Refusal

def problemCount (model : String) (problems : List Problem) : String :=
  if problems.length = 1 then s!"1 validation error for {model}"
  else s!"{problems.length} validation errors for {model}"

def message : Refusal → String
  | emptyDefault =>
    "with_default() requires a value; omit the modifier for no default."
  | notDecimal given => s!"Not a decimal literal: {given.shown}"
  | noRelation relationship =>
    s!"Relationship '{relationship}' has no relation type."
  | noSides relationship => s!"Relationship '{relationship}' needs both entities."
  | noForeignKey relationship =>
    s!"Relationship '{relationship}' needs a foreign key."
  | badDocument ps =>
    "Entity document validation failed: " ++ problemCount "EntitiesDocument" ps
  | badEntity entity model ps => s!"Entity '{entity}' is invalid: " ++ problemCount model ps
  | repeatedEntity entity => s!"Duplicate entity id '{entity}' in document."
  | notAFile path => s!"Entity document path is not a file: {path}"
  | badJson path => s!"Invalid JSON in {path}"
  | badYaml path => s!"Invalid YAML in {path}"
  | notAnObject kind => s!"Expected a JSON object at top level, got {kind}."
  | notAMapping kind => s!"Expected a YAML mapping at top level, got {kind}."

/-- The problems behind a refusal, if problems are behind it. -/
def problems? : Refusal → Option (List Problem)
  | badDocument ps | badEntity _ _ ps => some ps
  | _ => none

end Refusal

/-- What went wrong with a file. -/
inductive FileFault where
  | absent
  | present
  | isDirectory
  | notDirectory
  | badName
  deriving DecidableEq, Repr

/-- A value outside the domain of its column type. -/
structure Mismatch where
  value : Value
  typeName : String
  /-- The parameters of the type as messages show them. -/
  params : String

/-- What a failure of somebody else's is taken for. -/
inductive Family where
  /-- A value is of the wrong kind. -/
  | kind
  /-- A value is of the right kind, but not this value. -/
  | content
  | other
  deriving DecidableEq, Repr

/-- Every way in which a task can fail. -/
inductive Fault where
  | defect (d : Defect)
  | mismatch (m : Mismatch)
  /-- An error that is counted among those of the schema, but is neither a
  defect nor a mismatch of the schema's own making. -/
  | complaint (c : Complaint)
  | invalid (problems : List Problem)
  | refused (r : Refusal)
  | misuse (m : Misuse)
  | file (f : FileFault)
  /-- A failure that has nothing to do with schemas, under the name of its
  class. -/
  | foreign (name : String) (family : Family)

namespace Mismatch

def code : String := "DB_CODEC_MISMATCH"

def message (m : Mismatch) : String :=
  s!"Value {m.value.shown} is not valid for column type '{m.typeName}'."

def context (m : Mismatch) : List (String × Value) :=
  [("value", .str m.value.shown), ("type_params", .str m.params)]

end Mismatch

namespace Fault

/-- Whether a check that meets the fault takes it as a plain "no". -/
def isRejection : Fault → Bool
  | defect _ | mismatch _ | complaint _ | invalid _ | refused _ => true
  | misuse m => m.isRejection
  | file _ => false
  | foreign _ family => family != .other

def defect? : Fault → Option Defect
  | defect d => some d
  | _ => none

/-- The message that a fault carries, if the words are the schema's
own. -/
def ownMessage? : Fault → Option String
  | defect d => some d.text
  | mismatch m => some s!"[{Mismatch.code}] {m.message}"
  | complaint c => some c.text
  | refused r => some r.message
  | invalid _ | misuse _ | file _ | foreign _ _ => none

end Fault

/-- What a reader of a format of somebody else's raises. -/
inductive ReadFault where
  /-- The text is not of the format. -/
  | malformed
  /-- Any other failure of the reader. -/
  | other (f : Fault)

def Misuse.lift {α : Type} : Except Misuse α → Except Fault α
  | .ok a => .ok a
  | .error m => .error (.misuse m)

def Reading.orFault {α : Type} : Reading α → Except Fault α
  | .done a => .ok a
  | .failed ps => .error (.invalid ps)

end Polyschema
