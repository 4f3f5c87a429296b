/-
Polyschema.Compile.Report — what became of a compilation.

* `Report` — the outcome of every step and of every entity.
* `Report.summary` — the report for people.
-/
import Polyschema.Compile.Entity
import Polyschema.Schema.Keyed

namespace Polyschema

open Polyschema.Text

/-- One step of a compilation. -/
structure Step where
  name : String
  success : Bool
  detail : String
  deriving DecidableEq, Repr

/-- What became of a compilation. -/
structure Report where
  success : Bool
  version : String
  totalEntities : Nat
  compiledEntities : Nat
  totalLines : Nat
  steps : List Step
  schemas : Keyed Generated
  batch : Option Batch
  errors : List String
  warnings : List String
  failures : List Failure

namespace Report

/-- A report before anything was done. -/
def blank : Report where
  success := false
  version := ""
  totalEntities := 0
  compiledEntities := 0
  totalLines := 0
  steps := []
  schemas := .empty
  batch := none
  errors := []
  warnings := []
  failures := []

/-- A character repeated over the width of a report. -/
def rule (c : Char) : String := String.ofList (List.replicate 60 c)

/-- A step as a line. The clock stands still. -/
def stepLine (s : Step) : String :=
  let icon := if s.success then "✓" else "✗"
  s!"    {icon} {padRight 28 s.name}   0.000s  {s.detail}"

/-- A titled part of a report, which is left out when it is empty. -/
def part (title icon : String) (items : List String) : List String :=
  if items.isEmpty then []
  else
    rule '─' :: s!"  {title} ({items.length}):" ::
      items.map fun item => s!"    {icon} {item}"

def summary (r : Report) : String :=
  let status := if r.success then "✅ SUCCESS" else "❌ FAILED"
  let steps := if r.steps.isEmpty then [] else "  Pipeline Steps:" :: r.steps.map stepLine
  lines ([
    rule '=',
    "  SchemaGen — Compilation Report",
    rule '=',
    s!"  Status:           {status}",
    s!"  Version:          {r.version}",
    s!"  Entities:         {r.compiledEntities}/{r.totalEntities} compiled",
    s!"  Total lines:      {grouped r.totalLines}",
    "  Total time:       0.000s",
    rule '─'] ++ steps ++
    part "Validation Errors" "✗" r.errors ++
    part "Validation Warnings" "⚠" r.warnings ++
    part "Failed Entities" "✗" (r.failures.map Failure.text) ++
    [rule '='])

end Report

end Polyschema
