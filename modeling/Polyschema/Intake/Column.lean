/-
Polyschema.Intake.Column — columns and tables read from their fields.

* `assemble` — a piece put together from readings of its fields, with
  the problems of all of them.
* `ofFields`, `ofPart` — the piece from named fields, or from whatever is
  given for it.
-/
import Polyschema.Intake.Part

namespace Polyschema

open Polyschema.Intake

/-! ## Column types -/

/-- A modifier of what is given for its fields. It is set to true if
nothing else is said. -/
def Modifier.ofFields (f : Fields) : Reading Modifier :=
  f.closed ["kind", "value"]
    (Modifier.mk <$>
      (f.required "kind" (member ModifierKind.ofTag?)).inField "kind" <*>
      (Setting.data <$> (f.optional "value" (.bool true) anything)))

/-- A type with a modifier set to what is given for it, or to its usual
setting. A flag is judged by whether it counts as true. A default has to
be given, and null is none. -/
def ColumnType.layered (t : ColumnType) (kind : ModifierKind) (given : Option Value) :
    Except Fault ColumnType :=
  match kind, given with
  | .nullable, v => .ok (t.withNullable (v.all Value.truthy))
  | .unique, v => .ok (t.withUnique (v.all Value.truthy))
  | .primaryKey, v => .ok (t.withPrimaryKey (v.all Value.truthy))
  | .default, none => .error (.misuse .wrongKind)
  | .default, some .null => .error (.refused .emptyDefault)
  | .default, some v => .ok (t.withDefault v)
  | .autoIncrement, none => .ok (t.withAutoIncrement .byDefault)
  | .autoIncrement, some v => match v.asString?.bind Generation.ofTag? with
    | some g => .ok (t.withAutoIncrement g)
    | none => .error (.misuse .badContent)

/-- A type with a further modifier that replaces none. -/
def ColumnType.extended (t : ColumnType) (m : Modifier) : ColumnType :=
  { t with modifiers := t.modifiers ++ [m] }

/-- A function given for a field. Plain data holds only sources of
values, and `source` is what one is taken for. -/
def Intake.function {α : Type} (source : α) : Part → Reading α
  | .data .generator => .done source
  | _ => .problem .notCallable

def Intake.writer (e : Value × Part) : Reading (Dialect × Emitter) :=
  Prod.mk <$>
    ((member Dialect.ofTag? (.data e.1)).inField "[key]").under (keySegment e.1) <*>
    (function Emitter.source e.2).under (keySegment e.1)

def Intake.writers (p : Part) : Reading (List (Dialect × Emitter)) :=
  match p.entries? with
  | some entries => Reading.all (entries.map writer)
  | none => .problem .notMapping

def ColumnType.ofFields (f : Fields) : Reading ColumnType :=
  f.closed ["type_name", "type_params", "serializer", "deserializer", "validator",
      "emitters", "modifiers"]
    ((fun name params serializer deserializer validator emitters modifiers =>
      ⟨.custom { name, params, serializer, deserializer, validator, emitters }, modifiers⟩)
    <$> (f.required "type_name" Intake.name).inField "type_name"
    <*> (f.optional "type_params" [] (tupleOf anything)).inField "type_params"
    <*> (f.optional "serializer" none (some <$> function .source ·)).inField "serializer"
    <*> (f.optional "deserializer" none (some <$> function .source ·)).inField "deserializer"
    <*> (f.optional "validator" none (nullable (function .source))).inField "validator"
    <*> (f.optional "emitters" [] writers).inField "emitters"
    <*> (f.optional "modifiers" []
          (tupleOf (Part.model (fun _ => none) Modifier.ofFields))).inField "modifiers")

def ColumnType.ofPart : Part → Reading ColumnType :=
  Part.model (fun | .type t => some t | _ => none) ColumnType.ofFields

/-! ## Columns -/

namespace Column

/-- A column of its parts. One that is computed has neither a default
nor an identity. -/
def ofParts (type : ColumnType) (nullable unique primary autoIncrement indexed : Bool)
    (generated : Option Generation) (generatedAs : Option String)
    (default : Option Value) (comment : Option String) : Reading Column :=
  if computed_alone : computedAlone generatedAs default autoIncrement = true then
    .done { type, nullable, unique, primary, autoIncrement, indexed, generated,
            generatedAs, default, comment, computed_alone }
  else .problem (.rule <| "A computed column (generated_as) cannot also carry a " ++
    "default or be auto-increment.")

/-- A default, where null is none. -/
def defaultOf (v : Value) : Option Value := if v.isNull then none else some v

def fieldNames : List String := [
  "column_type", "nullable", "unique", "primary", "auto_increment", "indexed",
  "generated", "generated_as", "default", "comment"]

def ofFields (f : Fields) : Reading Column :=
  let flag (name : String) : Reading Bool := (f.optional name false truth).inField name
  (f.closed fieldNames (ofParts
    <$> (f.required "column_type" ColumnType.ofPart).inField "column_type"
    <*> flag "nullable"
    <*> flag "unique"
    <*> flag "primary"
    <*> flag "auto_increment"
    <*> flag "indexed"
    <*> (f.optional "generated" none
          (Intake.nullable (member Generation.ofTag?))).inField "generated"
    <*> (f.optional "generated_as" none (Intake.nullable text)).inField "generated_as"
    <*> (defaultOf <$> f.optional "default" .null anything)
    <*> (f.optional "comment" none (Intake.nullable text)).inField "comment")).andThen id

def ofPart : Part → Reading Column :=
  Part.model (fun | .column c => some c | _ => none) ofFields

end Column

/-! ## Tables -/

namespace Check

/-- A check put together from its fields. -/
def assemble (name expression : Reading String) : Reading Check :=
  Check.mk <$> name.inField "name" <*> expression.inField "expression"

def ofFields (f : Fields) : Reading Check :=
  f.closed ["name", "expression"]
    (assemble (f.required "name" Intake.name) (f.required "expression" Intake.name))

def ofPart : Part → Reading Check :=
  Part.model (fun | .check c => some c | _ => none) ofFields

end Check

namespace Table

def ofFields (f : Fields) : Reading Table :=
  f.closed ["name", "columns", "primary_key", "unique_constraints",
      "check_constraints", "comment"]
    (Table.mk
    <$> (f.required "name" Intake.name).inField "name"
    <*> (f.required "columns" (someDictOf Column.ofPart)).inField "columns"
    <*> (f.optional "primary_key" [] (tupleOf text)).inField "primary_key"
    <*> (f.optional "unique_constraints" []
          (tupleOf (tupleOf text))).inField "unique_constraints"
    <*> (f.optional "check_constraints" []
          (tupleOf Check.ofPart)).inField "check_constraints"
    <*> (f.optional "comment" none (Intake.nullable text)).inField "comment")

def ofPart : Part → Reading Table :=
  Part.model (fun | .table t => some t | _ => none) ofFields

end Table

end Polyschema
