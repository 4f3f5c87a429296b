/-
Polyschema.Intake.Entity — entities and settings read from their fields.

* `Index`, `Constraint`, `EntityName`, `Entity` — each put together from
  readings of its fields, and read from whatever is given for it.
* `Config.ofFields`, `Config.set` — the settings, as a whole and one by
  one.
* `Dialect.named`, `Variant.ofFields` — the target of an emission.
-/
import Polyschema.Intake.Relationship
import Polyschema.Schema.Config

namespace Polyschema

open Polyschema.Text Polyschema.Intake

/-! ## Indexes and constraints -/

namespace Index

def distinctColumns (columns : List String) : Reading (List String) :=
  if columns.Nodup then .done columns
  else .problem (.rule ("Duplicate columns in index: " ++ shownStrings columns))

/-- An index put together from its fields. -/
def assemble (name table : Reading String) (columns : Reading (List String))
    (unique : Reading Bool) (predicate : Reading (Option String))
    (method : Reading (Option AccessMethod)) : Reading Index :=
  Index.mk <$> name.inField "name"
    <*> table.inField "table_name"
    <*> (columns.andThen distinctColumns).inField "columns"
    <*> unique.inField "unique"
    <*> predicate.inField "where"
    <*> method.inField "index_type"

def ofFields (f : Fields) : Reading Index :=
  f.closed ["name", "table_name", "columns", "unique", "where", "index_type"]
    (assemble (f.required "name" Intake.name) (f.required "table_name" Intake.name)
      (f.required "columns" (someTupleOf text))
      (f.optional "unique" false truth) (f.optional "where" none (nullable text))
      (f.optional "index_type" none (nullable (member AccessMethod.ofTag?))))

def ofPart : Part → Reading Index :=
  Part.model (fun | .index i => some i | _ => none) ofFields

end Index

namespace Constraint

def kindOf : Part → Reading ConstraintKind
  | .data (.str s) => member ConstraintKind.ofTag? (.str (normalTag s))
  | p => member ConstraintKind.ofTag? p

/-- A constraint put together from its fields. -/
def assemble (name table : Reading String) (kind : Reading ConstraintKind)
    (definition : Reading String) : Reading Constraint :=
  Constraint.mk <$> name.inField "name"
    <*> table.inField "table_name"
    <*> kind.inField "constraint_type"
    <*> definition.inField "definition"

def ofFields (f : Fields) : Reading Constraint :=
  f.closed ["name", "table_name", "constraint_type", "definition"]
    (assemble (f.required "name" Intake.name) (f.required "table_name" Intake.name)
      (f.required "constraint_type" kindOf) (f.required "definition" Intake.name))

def ofPart : Part → Reading Constraint :=
  Part.model (fun | .constraint c => some c | _ => none) ofFields

end Constraint

/-! ## Entities -/

namespace EntityName

/-- The names of an entity put together from its fields. -/
def assemble (singular plural : Reading String)
    (display database : Reading (Option String)) : Reading EntityName :=
  EntityName.mk <$> singular.inField "singular"
    <*> plural.inField "plural"
    <*> display.inField "display"
    <*> database.inField "db"

def ofFields (f : Fields) : Reading EntityName :=
  f.closed ["singular", "plural", "display", "db"]
    (assemble (f.required "singular" Intake.name) (f.required "plural" Intake.name)
      (f.optional "display" none (nullable text)) (f.optional "db" none (nullable text)))

def ofPart : Part → Reading EntityName :=
  Part.model (fun | .entityName n => some n | _ => none) ofFields

end EntityName

namespace Entity

/-- A version: a text, or a number as messages show it. -/
def versionOf (p : Part) : Reading String :=
  match p with
  | .data (.int n) => .done (Value.int n).text
  | .data (.float x) => .done (Value.float x).text
  | .data (.bool b) => .done (Value.bool b).text
  | p => text p

def assemble (id : Reading String) (name : Reading EntityName)
    (version : Reading String) (description : Reading (Option String))
    (table : Reading Table) (fields : Reading (Keyed Value))
    (relationships : Reading (List Relationship)) (indexes : Reading (List Index))
    (constraints : Reading (List Constraint)) : Reading Entity :=
  (fun id name version description table fields relationships indexes constraints =>
    { id, name, version, description, table, fields := fields.entries,
      relationships, indexes, constraints })
    <$> id.inField "id"
    <*> name.inField "name"
    <*> version.inField "version"
    <*> description.inField "description"
    <*> table.inField "table"
    <*> fields.inField "fields"
    <*> relationships.inField "relationships"
    <*> indexes.inField "indexes"
    <*> constraints.inField "constraints"

def ofFields (f : Fields) : Reading Entity :=
  f.closed ["id", "name", "version", "description", "table", "fields", "relationships",
      "indexes", "constraints"]
    (assemble (f.required "id" Intake.name) (f.required "name" EntityName.ofPart)
      (f.optional "version" "1" versionOf)
      (f.optional "description" none (nullable text))
      (f.required "table" Table.ofPart) (f.optional "fields" .empty (dictOf anything))
      (f.optional "relationships" [] (tupleOf Relationship.ofPart))
      (f.optional "indexes" [] (tupleOf Index.ofPart))
      (f.optional "constraints" [] (tupleOf Constraint.ofPart)))

end Entity

/-! ## Settings -/

namespace Config

/-- The dialects that a text lists between commas. -/
def listedDialects (s : String) : Part :=
  .tuple (((s.splitOn ",").map trim).filter (· != "") |>.map Part.str)

def distinctDialects (dialects : List Dialect) : Reading (List Dialect) :=
  if dialects.Nodup then .done dialects
  else .problem (.rule ("Duplicate dialects: " ++ shownStrings (dialects.map Dialect.tag)))

/-- At least one dialect, in a list or in a text with commas. -/
def dialectsOf (p : Part) : Reading (List Dialect) :=
  let listed := match p with
    | .data (.str s) => listedDialects s
    | p => p
  (someTupleOf (member Dialect.ofTag?) listed).andThen distinctDialects

def fieldNames : List String := [
  "dialects", "sql_variant", "fail_on_warnings", "validate_before_compile",
  "include_timestamp"]

/-- The settings of what is given for them, the others as they are. -/
def update (c : Config) (f : Fields) : Reading Config :=
  let flag (name : String) (otherwise : Bool) : Reading Bool :=
    (f.optional name otherwise truth).inField name
  f.closed fieldNames (Config.mk
    <$> (f.optional "dialects" c.dialects dialectsOf).inField "dialects"
    <*> (f.optional "sql_variant" c.variant (member Variant.ofTag?)).inField "sql_variant"
    <*> flag "fail_on_warnings" c.failOnWarnings
    <*> flag "validate_before_compile" c.validateFirst
    <*> flag "include_timestamp" c.includeTimestamp)

def ofFields (f : Fields) : Reading Config := standard.update f

def ofPart : Part → Reading Config := Part.model (fun _ => none) ofFields

/-- The settings with one of them changed. A name that begins with an
underscore is nobody's setting and changes nothing. -/
def set (c : Config) (name : String) (p : Part) : Reading Config :=
  if name.startsWith "_" then .done c
  else if fieldNames.contains name then c.update [(.str name, p)]
  else (Reading.problem .noField).inField name

end Config

/-! ## What is asked for by name -/

def Variant.ofFields (f : Fields) : Reading Variant :=
  f.closed ["sql_variant"]
    ((f.optional "sql_variant" .postgres (member Variant.ofTag?)).inField "sql_variant")

/-- The dialect that a value names, in any casing and with blanks around
it. -/
def Dialect.named (v : Value) : Except Fault Dialect :=
  match Dialect.ofText? v.text with
  | some d => .ok d
  | none => .error (.defect (.unknownDialect v.text))

end Polyschema
