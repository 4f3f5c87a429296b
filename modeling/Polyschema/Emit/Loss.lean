/-
Polyschema.Emit.Loss — what a dialect cannot express.

Emission never fails for such a thing: it leaves it out or writes
something near, and notes the loss.

* `Loss` — the causes.
* `Loss.code`, `message`, `context` — what is reported.
-/
import Polyschema.Diagnostic
import Polyschema.Schema.Entity

namespace Polyschema

open Polyschema.Text

/-- Where a default from a source of values has to become an
expression. -/
inductive DefaultPlace where
  | sql (v : Variant)
  | drizzle
  | prisma
  deriving DecidableEq, Repr

/-- What a dialect cannot express. -/
inductive Loss where
  /-- The type of a column has no form in the dialect. -/
  | fallback (typeName : String) (d : Dialect) (column text : String)
  /-- A default lies outside its type and is written as it is. -/
  | outOfDomain (value : Value) (column typeName : String)
  /-- A default from a source of values has no expression. -/
  | noExpression (column typeName : String) (place : DefaultPlace)
  | computed (column : String) (d : Dialect)
  /-- A modifier has no form in Convex. -/
  | modifier (kind : ModifierKind) (column : String)
  /-- A unique group has no form in Convex. -/
  | uniqueGroup (table : String) (columns : List String)
  /-- A check becomes a comment in Prisma. -/
  | checkAsComment (table check : String)
  /-- A check has no form in Convex. -/
  | checkDropped (table check : String)
  /-- Prisma has no partial indexes. -/
  | partialIndex (index : String)
  /-- Convex has none of these options of an index. -/
  | indexOptions (index : String) (options : List String)
  /-- The SQL variant lacks an access method. -/
  | accessMethod (index : String) (method : AccessMethod) (v : Variant)
  /-- MySQL has no partial indexes. -/
  | partialSqlIndex (index : String)
  /-- SQLite cannot add a foreign key to a table. -/
  | addedForeignKey (relationship table column : String)
  /-- MySQL has no deferrable constraints. -/
  | deferrable (relationship : String)

namespace Loss

/-- The part of the emission that notices a loss. -/
inductive Source where
  | tables
  | relationships
  deriving DecidableEq, Repr

/-- The part of the emission that notices the loss. -/
def source : Loss → Source
  | addedForeignKey _ _ _ | deferrable _ => .relationships
  | _ => .tables

def code : Loss → String
  | fallback _ _ _ _ => "EMITTER_FALLBACK"
  | outOfDomain _ _ _ => "DEFAULT_OUT_OF_DOMAIN"
  | partialIndex _ | indexOptions _ _ | accessMethod _ _ _ | partialSqlIndex _ =>
    "INDEX_OPTION_DROPPED"
  | noExpression _ _ _ | computed _ _ | modifier _ _ | uniqueGroup _ _
  | checkAsComment _ _ | checkDropped _ _ | addedForeignKey _ _ _ | deferrable _ =>
    "MODIFIER_UNSUPPORTED"

def missingForm : DefaultPlace → String
  | .sql v => s!"{v.tag} expression"
  | .drizzle => "drizzle form"
  | .prisma => "prisma form"

def placeDialect : DefaultPlace → Dialect
  | .sql _ => .sql
  | .drizzle => .drizzle
  | .prisma => .prisma

def message : Loss → String
  | fallback typeName d column text =>
    s!"Column type '{typeName}' has no {d.tag} emitter; " ++
      s!"column '{column}' rendered as '{text}'."
  | outOfDomain value column typeName =>
    s!"Default {value.shown} of column '{column}' is outside the domain of " ++
      s!"'{typeName}'; rendered unserialized."
  | noExpression column typeName place =>
    s!"Generated default of column '{column}' ({typeName}) " ++
      s!"has no {missingForm place}; omitted."
  | computed column d =>
    s!"Computed column '{column}' cannot be expressed in {d.tag}; expression dropped."
  | modifier kind column =>
    s!"Modifier '{kind.tag}' of column '{column}' cannot be expressed in convex; dropped."
  | uniqueGroup table columns =>
    s!"Unique constraint ({commas columns}) of table '{table}' " ++
      "cannot be expressed in convex; dropped."
  | checkAsComment table check =>
    s!"Check constraint '{check}' of table '{table}' cannot be " ++
      "expressed in prisma; kept as a comment."
  | checkDropped table check =>
    s!"Check constraint '{check}' of table '{table}' cannot be " ++
      "expressed in convex; dropped."
  | partialIndex index =>
    s!"Partial index '{index}' cannot be expressed in prisma; WHERE dropped."
  | indexOptions index options =>
    s!"Index '{index}': {commas options} not supported by convex; dropped."
  | accessMethod index method v =>
    s!"Index '{index}': type '{method.tag}' not supported by {v.tag}; dropped."
  | partialSqlIndex index =>
    s!"Index '{index}': partial indexes not supported by mysql; WHERE dropped."
  | addedForeignKey relationship table column =>
    s!"Relationship '{relationship}': sqlite cannot add a foreign key with ALTER TABLE; " ++
      s!"declare it inline on '{table}.{column}' instead."
  | deferrable relationship =>
    s!"Relationship '{relationship}': mysql has no deferrable constraints; " ++
      "DEFERRABLE dropped."

def contextNames : Loss → List (String × String)
  | fallback typeName d column _ =>
    [("column", column), ("dialect", d.tag), ("type_name", typeName)]
  | outOfDomain _ column typeName => [("column", column), ("type_name", typeName)]
  | noExpression column _ place =>
    [("column", column), ("dialect", (placeDialect place).tag)]
  | computed column d => [("column", column), ("dialect", d.tag)]
  | modifier _ column => [("column", column), ("dialect", Dialect.convex.tag)]
  | uniqueGroup table _ => [("table", table)]
  | checkAsComment table check | checkDropped table check =>
    [("table", table), ("constraint", check)]
  | partialIndex index => [("index", index), ("dialect", Dialect.prisma.tag)]
  | indexOptions index _ => [("index", index), ("dialect", Dialect.convex.tag)]
  | accessMethod index _ _ | partialSqlIndex index =>
    [("index", index), ("dialect", Dialect.sql.tag)]
  | addedForeignKey relationship _ _ | deferrable relationship =>
    [("relationship", relationship)]

def diagnostic (l : Loss) : Diagnostic where
  level := .warning
  code := l.code
  message := l.message
  context := l.contextNames.map fun (key, name) => (key, .str name)

end Loss

end Polyschema
