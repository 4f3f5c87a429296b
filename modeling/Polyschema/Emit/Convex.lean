/-
Polyschema.Emit.Convex — tables as Convex definitions.

* `column` — a member with its validator; a nullable one is optional.
* `table` — a table with its indexes.
* `bundle` — many tables in one file with the schema at its end.

Convex knows neither uniqueness nor defaults, computed columns, groups
or checks; each of them is a loss.
-/
import Polyschema.Emit.Default
import Polyschema.Emit.Import
import Polyschema.Text.Name

namespace Polyschema

open Polyschema.Text

namespace Emit.Convex

open Emitting

variable {M : Type → Type} [Emitting M]

/-! ## Members -/

def applyModifier (validator : String) (m : Modifier) : String :=
  if m.kind = .nullable ∧ m.setting.truthy then s!"v.optional({validator})" else validator

/-- What Convex loses of a modifier: any default, and uniqueness. -/
def modifierLosses (name : String) (m : Modifier) : List Loss :=
  match m.kind with
  | .default => [.modifier .default name]
  | .unique => if m.setting.truthy then [.modifier .unique name] else []
  | _ => []

def columnLosses (t : ColumnType) (name : String) (generatedAs : Option String) :
    List Loss :=
  t.modifiers.flatMap (modifierLosses name) ++
    if isGiven generatedAs then [.computed name .convex] else []

def column (t : ColumnType) (name : String) (options : Option Variant)
    (generatedAs : Option String) : M String := do
  let fragment ← base t .convex name options s!"{name}: v.string()"
  let (key, validator) := cut ": " fragment
  losses (columnLosses t name generatedAs)
  pure s!"{key}: {t.modifiers.foldl applyModifier validator}"

/-! ## Tables -/

/-- The options of an index that Convex lacks. -/
def droppedOptions (i : Index) : List String :=
  (if i.unique then ["unique"] else []) ++
    (if isGiven i.predicate then ["where"] else []) ++
    if i.method.isSome then ["index_type"] else []

def indexText (i : Index) : M String := do
  let dropped := droppedOptions i
  noteWhen (!dropped.isEmpty) (.indexOptions i.name dropped)
  pure s!".index({scriptString i.name}, [{commas (i.columns.map scriptString)}])"

def memberLines (key : List String) (options : Option Variant) (name : String)
    (c : Column) : M (List String) := do
  let text ← column (keyedType name c key) name options c.generatedAs
  let comment := (c.comment.filter (· != "")).toList.map fun s => s!"  // {s}"
  pure (comment ++ [s!"  {text},"])

/-- What Convex loses of a table beside its columns and indexes. -/
def tableLosses (t : Table) : List Loss :=
  t.uniques.map (.uniqueGroup t.name) ++ t.checks.map fun c => .checkDropped t.name c.name

/-- The name under which a table is exported. -/
def exportName (t : Table) : String := camel t.name

def table (t : Table) (options : Option Variant) (indexes : List Index) :
    M String := do
  let key ← ofDefect t.resolveKey
  let members ← Noted.each (fun (name, c) => memberLines key options name c) t.columns.entries
  let indexLines ← Noted.each indexText indexes
  losses (tableLosses t)
  let comment := (t.comment.filter (· != "")).toList.map fun s => s!"// {s}"
  pure (lines (comment ++
    s!"export const {exportName t} = defineTable(\x7b" ::
      members.flatten ++ "\x7d)" :: indexLines.map ("  " ++ ·)))

/-! ## Files -/

/-- The import lines of a schema file. -/
def header : String :=
  importBlock [
    ("convex/server", ["defineSchema", "defineTable"]), ("convex/values", ["v"])]

def bundle (tables : List Table) (rendered : List String) : String :=
  let members := tables.map fun t => s!"  {t.name}: {exportName t},"
  let footer := "export default defineSchema(\x7b\n" ++ lines members ++ "\n\x7d);"
  header ++ "\n\n" ++ paragraphs rendered ++ "\n\n" ++ footer

end Emit.Convex

end Polyschema
