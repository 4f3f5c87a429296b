/-
Polyschema.Emit.Drizzle — tables as Drizzle definitions.

* `column` — a builder call with a chain of method calls, one for each
  modifier in order of application.
* `table` — a table with its keys, groups, checks and indexes.
* `bundle` — many tables in one file that imports what they call.
-/
import Polyschema.Emit.Default
import Polyschema.Emit.Import
import Polyschema.Text.Name
import Polyschema.Value.Literal

namespace Polyschema

open Polyschema.Text

namespace Emit.Drizzle

open Emitting

variable {M : Type → Type} [Emitting M]

/-! ## Columns -/

/-- A template of SQL inside TypeScript. -/
def sqlTemplate (expression : String) : String := s!"sql\x60{expression}\x60"

/-- The method call for a default. What JSON and lists store is written
as it is stored. -/
def defaultCall (t : ColumnType) (name : String) (setting : Setting) :
    M String :=
  match settingValue setting with
  | .generator => do
    let expression ← expressionOr (drizzleExpression t.name) t name .drizzle
    pure (expression.getD "")
  | value => do
    let stored ← storedDefault t value name
    match t.name == "json" || t.name == "array", stored with
    | true, .str text => pure s!".default({text})"
    | _, stored => do
      let literal ← ofExcept (Misuse.lift stored.scriptLiteral)
      pure s!".default({literal})"

def identityCall : Generation → String
  | .always => ".generatedAlwaysAsIdentity()"
  | .byDefault => ".generatedByDefaultAsIdentity()"

/-- The method call for a modifier; empty where none is needed. -/
def modifierCall (t : ColumnType) (name : String) (m : Modifier) : M String :=
  match m.kind with
  | .nullable => pure (if m.setting.truthy then "" else ".notNull()")
  | .unique => pure (if m.setting.truthy then ".unique()" else "")
  | .primaryKey => pure (if m.setting.truthy then ".primaryKey()" else "")
  | .default => defaultCall t name m.setting
  | .autoIncrement =>
    if m.setting.truthy then do
      let mode ← ofExcept (identityMode m.setting)
      pure (identityCall mode)
    else pure ""

def computedCall (generatedAs : Option String) : String :=
  match generatedAs with
  | some expression =>
    if expression = "" then "" else s!".generatedAlwaysAs({sqlTemplate expression})"
  | none => ""

/-- One column: its builder call and the method calls on it. -/
def column (t : ColumnType) (name : String) (options : Option Variant)
    (generatedAs : Option String) : M String := do
  let call ← base t .drizzle name options s!"text('{name}')"
  let calls ← Noted.each (modifierCall t name) t.modifiers
  pure (call ++ String.join calls ++ computedCall generatedAs)

/-! ## Tables -/

def members (columns : List String) : String :=
  commas (columns.map ("table." ++ ·))

def indexText (i : Index) : String :=
  let builder := if i.unique then "uniqueIndex" else "index"
  let call := match i.method with
    | some m => s!"{builder}('{i.name}').using('{m.tag}', {members i.columns})"
    | none => s!"{builder}('{i.name}').on({members i.columns})"
  match i.predicate with
  | some p => if p = "" then call else call ++ s!".where({sqlTemplate p})"
  | none => call

def keyTexts (key : List String) : List String :=
  if 1 < key.length then [s!"primaryKey(\x7b columns: [{members key}] \x7d)"] else []

def uniqueText (table : String) (columns : List String) : String :=
  let joined := "_".intercalate columns
  s!"unique('{table}_{joined}_unique').on({members columns})"

def checkText (c : Check) : String :=
  s!"check('{c.name}', {sqlTemplate c.expression})"

def columnLines (key : List String) (options : Option Variant) (name : String)
    (c : Column) : M (List String) := do
  let text ← column (keyedType name c key) name options c.generatedAs
  let comment := (c.comment.filter (· != "")).toList.map fun s => s!"  // {s}"
  pure (comment ++ [s!"  {name}: {text},"])

def extras (t : Table) (key : List String) (indexes : List Index) : List String :=
  keyTexts key ++ t.uniques.map (uniqueText t.name) ++ t.checks.map checkText ++
    indexes.map indexText

def closingLines (extras : List String) : List String :=
  if extras.isEmpty then ["\x7d);"]
  else "\x7d, (table) => [" :: extras.map (fun e => s!"  {e},") ++ ["]);"]

def exportName (t : Table) : String := camel t.name

def table (t : Table) (options : Option Variant) (indexes : List Index) :
    M String := do
  let key ← ofDefect t.resolveKey
  let columns ← Noted.each (fun (name, c) => columnLines key options name c) t.columns.entries
  let comment := (t.comment.filter (· != "")).toList.map fun s => s!"// {s}"
  pure (lines (comment ++
    s!"export const {exportName t} = pgTable('{t.name}', \x7b" ::
      columns.flatten ++ closingLines (extras t key indexes)))

/-! ## Files -/

def coreModule : String := "drizzle-orm/pg-core"

def templateModule : String := "drizzle-orm"

/-- The names imported for a text, by module. -/
def imports (body : String) : List (String × List String) :=
  (coreModule, ("pgTable" :: calledNames body).filter (· != "sql")) ::
    if holds sqlOpening body.toList then [(templateModule, ["sql"])] else []

def bundle (rendered : List String) : String :=
  let body := paragraphs rendered
  importBlock (imports body) ++ "\n\n" ++ body

end Emit.Drizzle

end Polyschema
