/-
Polyschema.Document.Draft — entity documents as they are written.

* `ColumnDraft`, `EntityDraft`, … — what a document says of a column, of
  an entity and of their parts, before types are made and tables are
  linked.
* `Document` — the drafts of all entities with the settings.
* `Document.ofPart` — the document that raw data holds, or everything
  that is wrong with its form.
-/
import Polyschema.Intake.Entity

namespace Polyschema

open Polyschema.Text Polyschema.Intake

/-- A reader of a model that is never made already. -/
def modelOf {α : Type} (ofFields : Fields → Reading α) : Part → Reading α :=
  Part.model (fun _ => none) ofFields

/-- A field for a text that may be left out or null. -/
def Fields.note (f : Fields) (name : String) : Reading (Option String) :=
  (f.optional name none (nullable text)).inField name

/-- A field for a truth value that may be left out. -/
def Fields.flag (f : Fields) (name : String) (otherwise : Bool) : Reading Bool :=
  (f.optional name otherwise truth).inField name

def Fields.textField (f : Fields) (name : String) : Reading String :=
  (f.required name text).inField name

/-! ## Columns -/

/-- A column as a document describes it. -/
structure ColumnDraft where
  type : String
  /-- The greatest length of a text. -/
  length : Option Int
  precision : Option Int
  scale : Option Int
  /-- The members of an enumeration. -/
  members : Option (List String)
  /-- The kind of the items of a list. -/
  element : Option String
  nullable : Bool
  unique : Bool
  primary : Bool
  autoIncrement : Bool
  indexed : Bool
  generated : Option Generation
  generatedAs : Option String
  default : Value
  /-- Whether the database makes the default. -/
  defaultGenerated : Bool
  comment : Option String

namespace ColumnDraft

def fieldNames : List String := [
  "type", "length", "precision", "scale", "values", "of", "nullable", "unique",
  "primary", "auto_increment", "indexed", "generated", "generated_as", "default",
  "default_generated", "comment"]

def ofFields (f : Fields) : Reading ColumnDraft :=
  let number (name : String) : Reading (Option Int) :=
    (f.optional name none (Intake.nullable whole)).inField name
  f.closed fieldNames (ColumnDraft.mk
    <$> (f.required "type" Intake.name).inField "type"
    <*> number "length"
    <*> number "precision"
    <*> number "scale"
    <*> (f.optional "values" none (Intake.nullable (listOf text))).inField "values"
    <*> f.note "of"
    <*> f.flag "nullable" false
    <*> f.flag "unique" false
    <*> f.flag "primary" false
    <*> f.flag "auto_increment" false
    <*> f.flag "indexed" false
    <*> (f.optional "generated" none
          (Intake.nullable (member Generation.ofTag?))).inField "generated"
    <*> f.note "generated_as"
    <*> f.optional "default" .null anything
    <*> f.flag "default_generated" false
    <*> f.note "comment")

end ColumnDraft

/-! ## Indexes, constraints and checks -/

/-- An index as a document describes it; its table is that of the
entity. -/
structure IndexDraft where
  name : String
  columns : List String
  unique : Bool
  predicate : Option String
  method : Option AccessMethod

def IndexDraft.ofFields (f : Fields) : Reading IndexDraft :=
  f.closed ["name", "columns", "unique", "where", "type"] (IndexDraft.mk
    <$> f.textField "name"
    <*> (f.required "columns" (someListOf text)).inField "columns"
    <*> f.flag "unique" false
    <*> f.note "where"
    <*> (f.optional "type" none (nullable (member AccessMethod.ofTag?))).inField "type")

/-- A constraint as a document describes it. -/
structure ConstraintDraft where
  name : String
  kind : String
  definition : String

def ConstraintDraft.ofFields (f : Fields) : Reading ConstraintDraft :=
  f.closed ["name", "type", "definition"] (ConstraintDraft.mk
    <$> f.textField "name" <*> f.textField "type" <*> f.textField "definition")

/-- A check as a document describes it. -/
structure CheckDraft where
  name : String
  expression : String

def CheckDraft.ofFields (f : Fields) : Reading CheckDraft :=
  f.closed ["name", "expression"]
    (CheckDraft.mk <$> f.textField "name" <*> f.textField "expression")

/-! ## Relationships -/

/-- A foreign key as a document describes it. Actions go by their exact
names. -/
structure ForeignKeyDraft where
  localColumn : String
  foreignColumn : String
  onDelete : Action
  onUpdate : Action
  indexed : Bool
  deferrable : Bool
  constraintName : Option String

def ForeignKeyDraft.ofFields (f : Fields) : Reading ForeignKeyDraft :=
  let action (name : String) : Reading Action :=
    (f.optional name .cascade (member Action.ofTag?)).inField name
  f.closed ["local_column", "foreign_column", "on_delete", "on_update", "indexed",
      "deferrable", "constraint_name"] (ForeignKeyDraft.mk
    <$> f.textField "local_column"
    <*> (f.optional "foreign_column" "id" text).inField "foreign_column"
    <*> action "on_delete"
    <*> action "on_update"
    <*> f.flag "indexed" true
    <*> f.flag "deferrable" false
    <*> f.note "constraint_name")

/-- A junction table as a document describes it. -/
structure JunctionDraft where
  name : String
  localColumn : String
  foreignColumn : String
  extras : Keyed ColumnDraft

def JunctionDraft.ofFields (f : Fields) : Reading JunctionDraft :=
  f.closed ["name", "local_column", "foreign_column", "extra_columns"] (JunctionDraft.mk
    <$> f.textField "name"
    <*> f.textField "local_column"
    <*> f.textField "foreign_column"
    <*> (f.optional "extra_columns" .empty
          (dictOf (modelOf ColumnDraft.ofFields))).inField "extra_columns")

/-- A relationship as a document describes it. Without a local side it
starts at the table of the entity. -/
structure RelationshipDraft where
  name : String
  relation : String
  localSide : Option String
  foreignSide : String
  foreignKey : ForeignKeyDraft
  junction : Option JunctionDraft
  description : Option String

def RelationshipDraft.ofFields (f : Fields) : Reading RelationshipDraft :=
  f.closed ["name", "type", "local", "foreign", "foreign_key", "junction",
      "description"] (RelationshipDraft.mk
    <$> f.textField "name"
    <*> f.textField "type"
    <*> f.note "local"
    <*> f.textField "foreign"
    <*> (f.required "foreign_key" (modelOf ForeignKeyDraft.ofFields)).inField "foreign_key"
    <*> (f.optional "junction" none
          (nullable (modelOf JunctionDraft.ofFields))).inField "junction"
    <*> f.note "description")

/-! ## Entities -/

/-- An entity as a document describes it. -/
structure EntityDraft where
  id : String
  singular : Option String
  plural : Option String
  display : Option String
  /-- The name of the table, if it is not the plural. -/
  givenTable : Option String
  version : String
  description : Option String
  comment : Option String
  primaryKey : List String
  columns : Keyed ColumnDraft
  uniques : List (List String)
  checks : List CheckDraft
  indexes : List IndexDraft
  constraints : List ConstraintDraft
  relationships : List RelationshipDraft
  fields : Keyed Value

namespace EntityDraft

/-- A version: a text or a whole number. -/
def versionOf (p : Part) : Reading String :=
  match text p, whole p with
  | .done s, _ => .done s
  | _, .done n => .done (toString n)
  | .failed ps, .failed qs =>
    .failed (ps.map (Problem.under (.field "str")) ++ qs.map (Problem.under (.field "int")))

def fieldNames : List String := [
  "id", "singular", "plural", "display", "table", "version", "description", "comment",
  "primary_key", "columns", "unique", "checks", "indexes", "constraints",
  "relationships", "fields"]

/-- A draft of what is given for its fields. The key is the column `id`
if nothing else is said. -/
def ofFields (f : Fields) : Reading EntityDraft :=
  let list {α : Type} (name : String) (read : Part → Reading α) : Reading (List α) :=
    (f.optional name [] (listOf read)).inField name
  f.closed fieldNames (EntityDraft.mk
    <$> (f.required "id" Intake.name).inField "id"
    <*> f.note "singular"
    <*> f.note "plural"
    <*> f.note "display"
    <*> f.note "table"
    <*> (f.optional "version" "1" versionOf).inField "version"
    <*> f.note "description"
    <*> f.note "comment"
    <*> (f.optional "primary_key" ["id"] (listOf text)).inField "primary_key"
    <*> (f.required "columns" (someDictOf (modelOf ColumnDraft.ofFields))).inField "columns"
    <*> list "unique" (listOf text)
    <*> list "checks" (modelOf CheckDraft.ofFields)
    <*> list "indexes" (modelOf IndexDraft.ofFields)
    <*> list "constraints" (modelOf ConstraintDraft.ofFields)
    <*> list "relationships" (modelOf RelationshipDraft.ofFields)
    <*> (f.optional "fields" .empty (dictOf anything)).inField "fields")

end EntityDraft

/-! ## Documents -/

/-- The drafts of all entities, at least one, with the settings. -/
structure Document where
  entities : List EntityDraft
  config : Config

namespace Document

def ofFields (f : Fields) : Reading Document :=
  f.closed ["entities", "config"] (Document.mk
    <$> (f.required "entities" (someListOf (modelOf EntityDraft.ofFields))).inField "entities"
    <*> (f.optional "config" Config.standard Config.ofPart).inField "config")

/-- The document that raw data holds. -/
def ofPart : Part → Reading Document := modelOf ofFields

end Document

end Polyschema
