/-
Polyschema.Builder.Entity — entities put together step by step.

* `EntityBuilder` — what was said so far.
* `idField`, `stringField`, … — the usual columns with their field
  notes.
* `EntityBuilder.table`, `EntityBuilder.build` — the table and the
  entity.
-/
import Polyschema.Builder.Column
import Polyschema.Builder.Relationship
import Polyschema.Emit.Tool
import Polyschema.Intake.Entity
import Polyschema.Value.Equal

namespace Polyschema

open Polyschema.Text

/-- An entity in the making. Its columns and field notes are kept by
name. -/
structure EntityBuilder where
  id : Part
  name : EntityName
  version : String
  description : Part
  tableName : Part
  tableComment : Part
  primaryKey : List Part
  columns : Fields
  fields : Fields
  uniques : List (List Part)
  checks : List Check
  indexes : List Fields
  constraints : List Fields
  relationships : List Part

namespace EntityBuilder

/-- The first of two parts, unless it counts as false. -/
def orElse (p : Part) (otherwise : Except Fault Part) : Except Fault Part :=
  if p.asValue.truthy then .ok p else otherwise

/-- The plural of what is given for the singular. -/
def pluralOf (singular : Part) : Except Fault Part :=
  Part.data <$> Misuse.lift (Emit.Tool.plural.apply singular.asValue)

/-- An entity with its names. The table goes by its own name, or else by
the plural in small letters. -/
def new (id singular plural display database : Part) : Except Fault EntityBuilder := do
  let plural ← orElse plural (pluralOf singular)
  let display ← orElse display (.ok singular)
  let name ← (EntityName.ofFields [(.str "singular", singular), (.str "plural", plural),
    (.str "display", display), (.str "db", database)]).orFault
  pure {
    id := id
    name := name
    version := "1"
    description := .null
    tableName := if database.asValue.truthy then database else .str (lower name.plural)
    tableComment := .null
    primaryKey := [.str "id"]
    columns := []
    fields := []
    uniques := []
    checks := []
    indexes := []
    constraints := []
    relationships := [] }

/-- An entity with its names; the plural takes an "s" if nothing else is
said. -/
def create (id singular plural : Part) : Except Fault EntityBuilder := do
  let plural ← orElse plural (.ok (.str (singular.asValue.text ++ "s")))
  new id singular plural .null .null

def withVersion (version : Part) (b : EntityBuilder) : EntityBuilder :=
  { b with version := version.asValue.text }

/-! ## Columns -/

/-- The entity with a column, and perhaps a field note. -/
def column (name column note : Part) (b : EntityBuilder) : Except Fault EntityBuilder :=
  let key := name.asValue
  if !key.hashable then .error (.misuse .wrongKind)
  else .ok { b with
    columns := putEntry key column b.columns
    fields := if note.isNull then b.fields else putEntry key note b.fields }

def built (name : Part) (c : ColumnBuilder) (note : Part) (b : EntityBuilder) :
    Except Fault EntityBuilder := do
  b.column name (.column (← c.build)) note

def noteOf (entries : List (String × Value)) : Part := .data (.record entries)

/-- A column for keys: an identity for integers, otherwise filled by the
database. -/
def idField (kind : Part) (b : EntityBuilder) : Except Fault EntityBuilder := do
  let c ← ColumnBuilder.create kind []
  let c := if kind.asValue.asString? = some "integer" then c.flag "auto_increment" none
    else c.set "default" (.data .generator)
  b.built (.str "id") c (noteOf [("js_type", .str "string"), ("editable", .bool false)])

def withDefault (value : Part) (c : ColumnBuilder) : ColumnBuilder :=
  if value.isNull then c else c.set "default" value

def ofKind (kind : Kind) : ColumnBuilder := .ofType (.type (.plain kind))

def stringField (name max nullable unique default : Part) (b : EntityBuilder) :
    Except Fault EntityBuilder := do
  let length ← lengthOf (some max.asArgument)
  let c := ((ofKind (.string length)).set "nullable" nullable).set "unique" unique
  b.built name (withDefault default c)
    (noteOf [("js_type", .str "string"), ("input", .str "TextField")])

def numberField (name nullable default whole : Part) (b : EntityBuilder) :
    Except Fault EntityBuilder :=
  let kind : Kind := if whole.asValue.truthy then .integer else .float
  b.built name (withDefault default ((ofKind kind).set "nullable" nullable))
    (noteOf [("js_type", .str "number"), ("input", .str "NumberField")])

def booleanField (name default : Part) (b : EntityBuilder) : Except Fault EntityBuilder :=
  b.built name
    (withDefault default ((ofKind .boolean).set "nullable" (.data (.bool false))))
    (noteOf [("js_type", .str "boolean"), ("input", .str "Checkbox")])

def emailField (name : Part) (b : EntityBuilder) : Except Fault EntityBuilder :=
  b.built name ((ofKind (.string (some 255))).flag "unique" none)
    (noteOf [("js_type", .str "string"), ("display", .str "Email")])

def urlField (name nullable : Part) (b : EntityBuilder) : Except Fault EntityBuilder :=
  b.built name ((ofKind (.string (some 2048))).set "nullable" nullable)
    (noteOf [("js_type", .str "string"), ("display", .str "Link")])

/-- Columns for the time of creation and of the last change. -/
def timestamps (b : EntityBuilder) : Except Fault EntityBuilder := do
  let note := noteOf [("js_type", .str "date"), ("editable", .bool false)]
  let b ← b.built (.str "createdAt")
    ((ofKind .timestamp).set "default" (.data .generator)) note
  b.built (.str "updatedAt") ((ofKind .timestamp).flag "nullable" none) note

/-! ## Constraints, indexes, relationships -/

def check (name expression : Part) (b : EntityBuilder) : Except Fault EntityBuilder := do
  let c ← (Check.ofFields [(.str "name", name), (.str "expression", expression)]).orFault
  pure { b with checks := b.checks ++ [c] }

def itemsOf (p : Part) : Except Fault (List Part) :=
  match p.listed? with
  | some items => .ok items
  | none => .error (.misuse .wrongKind)

/-- The access method of what is given for it, if that counts as true. -/
def methodOf (p : Part) : Except Fault Part :=
  if !p.asValue.truthy then .ok .null
  else match p.asValue.asString?.bind AccessMethod.ofTag? with
    | some m => .ok (.str m.tag)
    | none => .error (.misuse .badContent)

def index (name columns unique predicate method : Part) (b : EntityBuilder) :
    Except Fault EntityBuilder := do
  let columns ← itemsOf columns
  let method ← methodOf method
  pure { b with indexes := b.indexes ++ [[(.str "name", name), (.str "columns", .tuple columns),
    (.str "unique", unique), (.str "where", predicate), (.str "index_type", method)]] }

def constraint (name kind definition : Part) (b : EntityBuilder) : EntityBuilder :=
  { b with constraints := b.constraints ++ [[(.str "name", name),
    (.str "constraint_type", kind), (.str "definition", definition)]] }

def relationship (r : Part) (b : EntityBuilder) : EntityBuilder :=
  { b with relationships := b.relationships ++ [r] }

/-! ## Results -/

def columnNames (b : EntityBuilder) : List Value := b.columns.map Prod.fst

def table (b : EntityBuilder) : Except Fault Table :=
  (Table.ofFields [(.str "name", b.tableName), (.str "columns", .dict b.columns),
    (.str "primary_key", .tuple b.primaryKey),
    (.str "unique_constraints", .tuple (b.uniques.map .tuple)),
    (.str "check_constraints", .tuple (b.checks.map .check)),
    (.str "comment", b.tableComment)]).orFault

/-- The entity. The table is judged first, then each index, each
constraint, and the whole last. -/
def build (b : EntityBuilder) : Except Fault Entity := do
  let table ← b.table
  let indexes ← b.indexes.mapM fun fields =>
    (Index.ofFields ((.str "table_name", b.tableName) :: fields)).orFault
  let constraints ← b.constraints.mapM fun fields =>
    (Constraint.ofFields ((.str "table_name", b.tableName) :: fields)).orFault
  (Entity.ofFields [(.str "id", b.id), (.str "name", .entityName b.name),
    (.str "version", .str b.version), (.str "description", b.description),
    (.str "table", .table table), (.str "fields", .dict b.fields),
    (.str "relationships", .tuple b.relationships),
    (.str "indexes", .tuple (indexes.map .index)),
    (.str "constraints", .tuple (constraints.map .constraint))]).orFault

end EntityBuilder

end Polyschema
