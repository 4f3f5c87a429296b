/-
Polyschema.Emit.Prisma — tables as Prisma models.

* `field` — a field with its type and attributes, one for each modifier
  in order of application.
* `model` — a model with its block attributes.
* `bundle` — many models after the header of a schema file.
-/
import Polyschema.Emit.Default
import Polyschema.Text.Name
import Polyschema.Value.Literal

namespace Polyschema

open Polyschema.Text

namespace Emit.Prisma

open Emitting

variable {M : Type → Type} [Emitting M]

/-! ## Fields -/

def defaultAttribute (t : ColumnType) (name : String) (setting : Setting) :
    M (Option String) :=
  match settingValue setting with
  | .generator => expressionOr (prismaExpression t.name) t name .prisma
  | value => do
    let stored ← storedDefault t value name
    let literal ← ofExcept (Misuse.lift stored.attributeLiteral)
    pure (some s!"@default({literal})")

def modifierAttribute (t : ColumnType) (name : String) (m : Modifier) :
    M (Option String) :=
  let when (word : String) : Option String := if m.setting.truthy then some word else none
  match m.kind with
  | .nullable => pure none
  | .unique => pure (when "@unique")
  | .primaryKey => pure (when "@id")
  | .default => defaultAttribute t name m.setting
  | .autoIncrement => pure (when "@default(autoincrement())")

def optionalMark (chain : List Modifier) : String :=
  if (lastSetting? .nullable chain).any Setting.truthy then "?" else ""

/-- A field of a model. -/
structure Field where
  name : String
  type : String
  optional : String
  attributes : List String

def Field.text (f : Field) : String :=
  " ".intercalate (f.name :: (f.type ++ f.optional) :: f.attributes)

def field (t : ColumnType) (name : String) (options : Option Variant)
    (generatedAs : Option String) : M Field := do
  let fragment ← base t .prisma name options s!"{name} String"
  let (head, rest) := cut " " fragment
  let (type, own) := cut " " rest
  let attributes ← Noted.each (modifierAttribute t name) t.modifiers
  noteWhen (isGiven generatedAs) (.computed name .prisma)
  pure {
    name := head
    type := type
    optional := optionalMark t.modifiers
    attributes := (if own = "" then [] else [own]) ++ attributes.filterMap id }

def column (t : ColumnType) (name : String) (options : Option Variant)
    (generatedAs : Option String) : M String := do
  pure (← field t name options generatedAs).text

/-! ## Models -/

/-- What Prisma calls an access method. -/
def methodName : AccessMethod → String
  | .btree => "BTree"
  | .hash => "Hash"
  | .gist => "Gist"
  | .gin => "Gin"

/-- An index of a model. Its predicate is lost. -/
def indexAttribute (i : Index) : M String := do
  noteWhen (isGiven i.predicate) (.partialIndex i.name)
  let word := if i.unique then "@@unique" else "@@index"
  let method := i.method.toList.map fun m => s!"type: {methodName m}"
  let arguments := [s!"[{commas i.columns}]", s!"map: \x22{i.name}\x22"] ++ method
  pure s!"{word}({commas arguments})"

/-- A check of a table, kept as a comment. -/
def checkComment (table : String) (c : Check) : M String := do
  note (.checkAsComment table c.name)
  pure s!"// CHECK {c.name}: {c.expression}"

def fieldLines (key : List String) (options : Option Variant) (name : String)
    (c : Column) : M (List String) := do
  let text ← column (keyedType name c key) name options c.generatedAs
  let comment := (c.comment.filter (· != "")).toList.map fun s => s!"  /// {s}"
  pure (comment ++ [s!"  {text}"])

def blockLines (t : Table) (key : List String) (indexes : List Index) :
    M (List String) := do
  let indexLines ← Noted.each indexAttribute indexes
  let checks ← Noted.each (checkComment t.name) t.checks
  let keys := if 1 < key.length then [s!"@@id([{commas key}])"] else []
  pure (keys ++ t.uniques.map (fun g => s!"@@unique([{commas g}])") ++ indexLines ++
    checks ++ [s!"@@map(\x22{t.name}\x22)"])

/-- A table as a model with indexes. The model is named after the table
where no name is given. -/
def model (t : Table) (options : Option Variant) (indexes : List Index)
    (modelName : Option String) : M String := do
  let key ← ofDefect t.resolveKey
  let fields ← Noted.each (fun (name, c) => fieldLines key options name c) t.columns.entries
  let block ← blockLines t key indexes
  let comment := (t.comment.filter (· != "")).toList.map fun s => s!"/// {s}"
  let name := match modelName with
    | some name => if name = "" then pascal t.name else name
    | none => pascal t.name
  pure (lines (comment ++ s!"model {name} \x7b" :: fields.flatten ++
    "" :: block.map ("  " ++ ·) ++ ["\x7d"]))

/-! ## Files -/

/-- What Prisma calls the database system. -/
def provider : Variant → String
  | .postgres => "postgresql"
  | .mysql => "mysql"
  | .sqlite => "sqlite"

/-- The lines that open a schema file. -/
def header (options : Option Variant) : List String := [
  "generator client \x7b",
  "  provider = \x22prisma-client-js\x22",
  "\x7d",
  "",
  "datasource db \x7b",
  s!"  provider = \x22{provider (Variant.ofOptions options)}\x22",
  "  url      = env(\x22DATABASE_URL\x22)",
  "\x7d"]

def bundle (options : Option Variant) (rendered : List String) : String :=
  lines (header options) ++ "\n\n" ++ paragraphs rendered

end Emit.Prisma

end Polyschema
