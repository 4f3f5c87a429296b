/-
Polyschema.Diagnostic — findings on a schema, and lists of them.

* `Diagnostic` — a finding with its level, code and message.
* `summaryText`, `reportText` — a list of findings for people.

A list of findings is valid when none of them is an error.
-/
import Polyschema.Value.Text

namespace Polyschema

open Polyschema.Text

/-- How serious a finding is. -/
inductive Level where
  | error
  | warning
  | info
  deriving DecidableEq, Repr

def Level.name : Level → String
  | error => "error"
  | warning => "warning"
  | info => "info"

def Level.capitals : Level → String
  | error => "ERROR"
  | warning => "WARNING"
  | info => "INFO"

def Level.icon : Level → String
  | error => "❌"
  | warning => "⚠️"
  | info => "ℹ️"

/-- A finding. -/
structure Diagnostic where
  level : Level
  code : String
  message : String
  context : List (String × Value)

namespace Diagnostic

def text (d : Diagnostic) : String := s!"[{d.level.capitals}] {d.code}: {d.message}"

def isError (d : Diagnostic) : Bool := d.level == .error

def isWarning (d : Diagnostic) : Bool := d.level == .warning

/-- A finding as a report lists it, its context on lines of their
own. -/
def reportLines (d : Diagnostic) : List String :=
  s!"  {d.level.icon} [{d.code}] {d.message}" ::
    d.context.map fun (key, value) => s!"       {key}: {value.text}"

def errors (log : List Diagnostic) : List Diagnostic := log.filter isError

def warnings (log : List Diagnostic) : List Diagnostic := log.filter isWarning

def isValid (log : List Diagnostic) : Bool := !log.any isError

def summaryText (log : List Diagnostic) : String :=
  s!"Validation: {(errors log).length} error(s), " ++
    s!"{(warnings log).length} warning(s), {log.length} total item(s)."

/-- All findings for people; those for information only if asked for. -/
def reportText (withInfo : Bool) (log : List Diagnostic) : String :=
  let listed := log.filter fun d => withInfo || d.level != .info
  lines (summaryText log :: "" :: listed.flatMap reportLines)

end Diagnostic

end Polyschema
