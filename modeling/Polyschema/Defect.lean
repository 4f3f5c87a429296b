/-
Polyschema.Defect — what can be wrong with the structure of a schema.

* `Complaint` — an error in the words of whoever raised it.
* `Defect` — the causes, each with the names involved.
* `Defect.kind`, `DefectKind.code` — the classes of causes and their
  stable codes.
* `Defect.message`, `entity`, `subject`, `context` — what is reported.
-/
import Polyschema.Dialect
import Polyschema.Value.Text

namespace Polyschema

open Polyschema.Text

/-- An error in the words of whoever raised it, as a function that came
with a column type may raise one. -/
structure Complaint where
  code : String
  message : String
  entity : Option String
  subject : Option String
  context : List (String × Value)

def Complaint.text (c : Complaint) : String := s!"[{c.code}] {c.message}"

/-- A class of defects. -/
inductive DefectKind where
  | missingPrimaryKey
  | primaryKeyConflict
  | unresolvedReference
  | missingJunction
  | junctionCollision
  | unknownRelation
  | unknownDialect
  | invalidType
  /-- A class that somebody else has made, with the code that it has. -/
  | other (code : String)
  deriving DecidableEq, Repr

def DefectKind.code : DefectKind → String
  | missingPrimaryKey => "DB_MISSING_PRIMARY_KEY"
  | primaryKeyConflict => "DB_PRIMARY_KEY_CONFLICT"
  | unresolvedReference => "DB_UNRESOLVED_REFERENCE"
  | missingJunction => "DB_MISSING_JUNCTION_TABLE"
  | junctionCollision => "DB_JUNCTION_COLUMN_COLLISION"
  | unknownRelation => "DB_UNKNOWN_RELATION_TYPE"
  | unknownDialect => "DB_UNKNOWN_DIALECT"
  | invalidType => "DB_INVALID_COLUMN_TYPE"
  | other code => code

/-- What is wrong with the structure of a schema. -/
inductive Defect where
  /-- Neither the table nor a column declares a key. -/
  | noKey (table : String)
  /-- The table itself declares no key, which SQL needs. -/
  | noTableKey (table : String)
  /-- Several columns are flagged and the table declares no key. -/
  | manyFlagged (table : String) (flagged : List String)
  /-- The table declares one key and the flags another. -/
  | keysDisagree (table : String) (declared flagged : List String)
  | absentKeyColumn (table column : String)
  | absentUniqueColumn (table column : String)
  | absentReference (relationship table column : String)
  | noJunction (relationship owner : String)
  /-- Both foreign keys of a junction use one column. -/
  | sharedJunctionColumn (relationship junction column : String)
  /-- A further column of a junction is one of its foreign keys. -/
  | extraJunctionColumn (relationship junction column : String)
  | unknownRelation (relationship owner tag : String)
  | unknownDialect (tag : String)
  | unknownEmitter (tag typeName : String)
  | badLength (given : Value)
  | badPrecision (given : Value)
  | badScale (given : Value)
  | scaleTooLarge (scale precision : Nat)
  | badElement (given : String)
  | badMembers (given : Value)
  | repeatedMembers (members : List String)
  | namelessType
  | unknownKind (tag : String)
  | badParameters (kind : String)
  /-- A defect that was found by a function of somebody else's. -/
  | told (c : Complaint)

namespace Defect

def kind : Defect → DefectKind
  | noKey _ | noTableKey _ => .missingPrimaryKey
  | manyFlagged _ _ | keysDisagree _ _ _ => .primaryKeyConflict
  | absentKeyColumn _ _ | absentUniqueColumn _ _ | absentReference _ _ _ =>
    .unresolvedReference
  | noJunction _ _ => .missingJunction
  | sharedJunctionColumn _ _ _ | extraJunctionColumn _ _ _ => .junctionCollision
  | unknownRelation _ _ _ => .unknownRelation
  | unknownDialect _ | unknownEmitter _ _ => .unknownDialect
  | badLength _ | badPrecision _ | badScale _ | scaleTooLarge _ _
  | badElement _ | badMembers _ | repeatedMembers _ | namelessType
  | unknownKind _ | badParameters _ => .invalidType
  | told c => .other c.code

def code (d : Defect) : String := d.kind.code

/-- The names of the registered kinds of columns, in order. -/
def kindNames : List String := [
  "string", "integer", "float", "decimal", "boolean", "date", "timestamp",
  "uuid", "json", "array", "enum", "custom"]

def message : Defect → String
  | noKey table => s!"Table '{table}' declares no primary key."
  | noTableKey table => s!"Table '{table}' has no table-level primary key."
  | manyFlagged table flagged =>
    s!"Table '{table}' flags {flagged.length} primary columns " ++
      s!"({commas flagged}); declare composite keys at table level."
  | keysDisagree table declared flagged =>
    s!"Table '{table}' declares primary key ({commas declared}) but " ++
      s!"flags ({commas flagged})."
  | absentKeyColumn table column =>
    s!"Primary key column '{column}' does not exist in table '{table}'."
  | absentUniqueColumn table column =>
    s!"Unique constraint column '{column}' does not exist in table '{table}'."
  | absentReference relationship table column =>
    s!"Relationship '{relationship}' references column '{column}', which does not " ++
      s!"exist in table '{table}'."
  | noJunction relationship _ =>
    s!"Many-to-many relationship '{relationship}' has no junction table."
  | sharedJunctionColumn _ junction column =>
    s!"Junction table '{junction}' uses '{column}' for both foreign keys."
  | extraJunctionColumn _ junction column =>
    s!"Extra column '{column}' of junction table '{junction}' collides " ++
      "with a foreign-key column."
  | unknownRelation relationship _ tag =>
    s!"Relationship '{relationship}' has unknown type '{tag}'."
  | unknownDialect tag =>
    s!"Unknown dialect '{tag}'. Expected one of: " ++
      s!"{commas (Dialect.all.map Dialect.tag)}."
  | unknownEmitter tag typeName =>
    s!"Unknown dialect '{tag}' in emitters of custom type '{typeName}'."
  | badLength given =>
    s!"string max_length must be a positive integer, got {given.shown}."
  | badPrecision given =>
    s!"decimal precision must be a positive integer, got {given.shown}."
  | badScale given =>
    s!"decimal scale must be a non-negative integer, got {given.shown}."
  | scaleTooLarge scale precision =>
    s!"decimal scale ({scale}) cannot exceed precision ({precision})."
  | badElement given => s!"array element must be a ColumnType, got {given}."
  | badMembers given =>
    s!"enum requires a non-empty list of non-empty strings, got {given.shown}."
  | repeatedMembers members =>
    s!"enum values must be unique: {shownStrings members}"
  | namelessType => "custom column type requires a type_name."
  | unknownKind tag =>
    s!"Unknown column type '{tag}'. Registered kinds: {commas kindNames}."
  | badParameters kind => s!"Invalid parameters for column type '{kind}'"
  | told c => c.message

/-- The table or entity that a defect lies in, where it is known. -/
def entity : Defect → Option String
  | noKey table | noTableKey table | manyFlagged table _ | keysDisagree table _ _
  | absentKeyColumn table _ | absentUniqueColumn table _
  | absentReference _ table _ => some table
  | noJunction _ owner | unknownRelation _ owner _ => some owner
  | sharedJunctionColumn _ junction _ | extraJunctionColumn _ junction _ => some junction
  | told c => c.entity
  | _ => none

/-- The column, relationship, dialect or kind that is at fault. -/
def subject : Defect → Option String
  | noKey _ | noTableKey _ | manyFlagged _ _ | keysDisagree _ _ _ => none
  | absentKeyColumn _ column | absentUniqueColumn _ column
  | absentReference _ _ column => some column
  | noJunction relationship _ => some relationship
  | sharedJunctionColumn _ _ column | extraJunctionColumn _ _ column => some column
  | unknownRelation _ _ tag => some tag
  | unknownDialect tag | unknownEmitter tag _ => some tag
  | badLength _ => some "string"
  | badPrecision _ | badScale _ | scaleTooLarge _ _ => some "decimal"
  | badElement _ => some "array"
  | badMembers _ | repeatedMembers _ => some "enum"
  | namelessType => some "custom"
  | unknownKind tag => some tag
  | badParameters kind => some kind
  | told c => c.subject

def context : Defect → List (String × Value)
  | manyFlagged _ flagged => [("flagged", .strings flagged)]
  | keysDisagree _ declared flagged =>
    [("declared", .strings declared), ("flagged", .strings flagged)]
  | absentReference relationship _ _ | sharedJunctionColumn relationship _ _
  | extraJunctionColumn relationship _ _ => [("relationship", .str relationship)]
  | told c => c.context
  | _ => []

def text (d : Defect) : String := s!"[{d.code}] {d.message}"

end Defect

end Polyschema
