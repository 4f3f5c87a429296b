/-
Polyschema.Check.Finding — what a look at a schema can find before
anything is emitted.

* `Finding` — the causes.
* `Finding.level`, `code`, `message`, `context` — what is reported.
-/
import Polyschema.Diagnostic

namespace Polyschema

open Polyschema.Text

/-- What is found on a schema. -/
inductive Finding where
  | badTableName (table : String)
  | reservedTableName (table : String)
  | badColumnName (table column : String)
  | reservedColumnName (table column : String)
  | noKey (table : String)
  | absentKeyColumn (table column : String)
  | manyFlagged (table : String) (flagged : List String)
  | keysDisagree (table : String) (declared flagged : List String)
  /-- The table leaves its key to a flag, which SQL does not allow. -/
  | keyUndeclared (table : String)
  | nullableKey (table column : String)
  | absentUniqueColumn (table column : String)
  | repeatedIndex (entity index : String) (count : Nat)
  /-- An index is for another table. -/
  | indexElsewhere (entity index target table : String)
  | absentIndexColumn (entity index column : String)
  | unknownRelation (entity relationship tag : String)
  | absentReference (relationship side table column : String)
  | noJunction (entity relationship : String)
  | junctionCollision (entity relationship junction : String)
  | repeatedTable (table : String) (count : Nat)
  /-- A relationship names a table outside the batch. -/
  | unknownTarget (entity relationship table : String)
  /-- Foreign keys lead from a table back to itself. -/
  | cycle (path : List String)
  deriving DecidableEq, Repr

namespace Finding

def level : Finding → Level
  | reservedTableName _ | reservedColumnName _ _ | nullableKey _ _
  | indexElsewhere _ _ _ _ | unknownTarget _ _ _ | cycle _ => .warning
  | keyUndeclared _ => .info
  | _ => .error

def code : Finding → String
  | badTableName _ => "INVALID_TABLE_NAME"
  | reservedTableName _ => "TABLE_NAME_SQL_RESERVED"
  | badColumnName _ _ => "INVALID_COLUMN_NAME"
  | reservedColumnName _ _ => "COLUMN_NAME_SQL_RESERVED"
  | noKey _ => "DB_MISSING_PRIMARY_KEY"
  | absentKeyColumn _ _ => "PK_COLUMN_NOT_FOUND"
  | manyFlagged _ _ | keysDisagree _ _ _ => "DB_PRIMARY_KEY_CONFLICT"
  | keyUndeclared _ => "SQL_PRIMARY_KEY_UNDECLARED"
  | nullableKey _ _ => "NULLABLE_PRIMARY_KEY"
  | absentUniqueColumn _ _ => "UNIQUE_COLUMN_NOT_FOUND"
  | repeatedIndex _ _ _ => "DUPLICATE_INDEX_NAME"
  | indexElsewhere _ _ _ _ => "INDEX_TABLE_MISMATCH"
  | absentIndexColumn _ _ _ => "INDEX_COLUMN_NOT_FOUND"
  | unknownRelation _ _ _ => "DB_UNKNOWN_RELATION_TYPE"
  | absentReference _ _ _ _ => "DB_UNRESOLVED_REFERENCE"
  | noJunction _ _ => "DB_MISSING_JUNCTION_TABLE"
  | junctionCollision _ _ _ => "DB_JUNCTION_COLUMN_COLLISION"
  | repeatedTable _ _ => "DUPLICATE_TABLE_NAME"
  | unknownTarget _ _ _ => "UNRESOLVED_RELATIONSHIP_TARGET"
  | cycle _ => "CIRCULAR_FK_DEPENDENCY"

def message : Finding → String
  | badTableName table => s!"Table name '{table}' is not a valid identifier."
  | reservedTableName table =>
    s!"Table name '{table}' is a SQL reserved word; some variants " ++
      "require it to be quoted."
  | badColumnName table column =>
    s!"Column '{column}' in table '{table}' is not a valid identifier."
  | reservedColumnName table column =>
    s!"Column '{column}' in table '{table}' is a SQL reserved word."
  | noKey table => s!"Table '{table}' has no primary key."
  | absentKeyColumn table column =>
    s!"Primary key column '{column}' of table '{table}' does not exist."
  | manyFlagged table flagged =>
    s!"Table '{table}' flags {flagged.length} primary columns; declare " ++
      "composite keys at table level."
  | keysDisagree table declared flagged =>
    s!"Table '{table}' declares primary key {shownStrings declared} but " ++
      s!"flags {shownStrings flagged}."
  | keyUndeclared table =>
    s!"Table '{table}' has no table-level primary key; the SQL " ++
      "dialect requires one."
  | nullableKey table column =>
    s!"Primary key column '{column}' in table '{table}' is nullable."
  | absentUniqueColumn table column =>
    s!"Unique constraint column '{column}' of table '{table}' does not exist."
  | repeatedIndex entity index count =>
    s!"Index '{index}' is defined {count} times on entity '{entity}'."
  | indexElsewhere _ index target table =>
    s!"Index '{index}' targets table '{target}', not '{table}'."
  | absentIndexColumn _ index column =>
    s!"Index '{index}' references missing column '{column}'."
  | unknownRelation _ relationship tag =>
    s!"Relationship '{relationship}' has unknown type '{tag}'."
  | absentReference relationship side table column =>
    s!"Relationship '{relationship}': {side} column '{column}' does not exist " ++
      s!"in table '{table}'."
  | noJunction _ relationship =>
    s!"Many-to-many relationship '{relationship}' has no junction table."
  | junctionCollision _ _ junction =>
    s!"Junction table '{junction}' reuses a column name."
  | repeatedTable table count => s!"Table '{table}' is produced by {count} entities."
  | unknownTarget entity relationship table =>
    s!"Relationship '{relationship}' of entity '{entity}' targets " ++
      s!"table '{table}', which is not part of this batch."
  | cycle path =>
    "Circular foreign-key dependency detected: " ++ " → ".intercalate path ++ "."

def context : Finding → List (String × Value)
  | badTableName table | reservedTableName table | noKey table | keyUndeclared table =>
    [("table", .str table)]
  | badColumnName table column | reservedColumnName table column
  | absentKeyColumn table column | nullableKey table column
  | absentUniqueColumn table column => [("table", .str table), ("column", .str column)]
  | manyFlagged table flagged => [("table", .str table), ("columns", .strings flagged)]
  | keysDisagree table declared flagged =>
    [("table", .str table), ("declared", .strings declared), ("flagged", .strings flagged)]
  | repeatedIndex entity index _ => [("entity", .str entity), ("index", .str index)]
  | indexElsewhere entity index _ _ => [("entity", .str entity), ("index", .str index)]
  | absentIndexColumn entity index column =>
    [("entity", .str entity), ("index", .str index), ("column", .str column)]
  | unknownRelation entity relationship _ | noJunction entity relationship =>
    [("entity", .str entity), ("relationship", .str relationship)]
  | absentReference relationship _ table column =>
    [("relationship", .str relationship), ("table", .str table), ("column", .str column)]
  | junctionCollision entity relationship junction =>
    [("entity", .str entity), ("relationship", .str relationship),
      ("junction", .str junction)]
  | repeatedTable table _ => [("table", .str table)]
  | unknownTarget entity _ table => [("entity", .str entity), ("table", .str table)]
  | cycle path => [("cycle", .strings path)]

def diagnostic (f : Finding) : Diagnostic := ⟨f.level, f.code, f.message, f.context⟩

end Finding

def diagnosticsOf (findings : List Finding) : List Diagnostic :=
  findings.map Finding.diagnostic

end Polyschema
