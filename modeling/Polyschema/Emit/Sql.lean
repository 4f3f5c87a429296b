/-
Polyschema.Emit.Sql — tables, indexes and constraints as SQL.

* `column` — one column; its modifiers come in a fixed order, however
  they were applied.
* `CreateTable`, `CreateIndex`, `AddConstraint` — the statements, with
  their text.
* `createTable`, `createIndexes`, `addConstraints` — the statements of
  an entity.

The primary key is always a clause of the table. SQL needs it declared
there.
-/
import Polyschema.Emit.Default
import Polyschema.Value.Literal

namespace Polyschema

open Polyschema.Text

namespace Emit.Sql

open Emitting

variable {M : Type → Type} [Emitting M]

/-! ## Columns -/

/-- The clause for the default of a column. The stored form of a decimal
is written as a number. -/
def defaultClause (t : ColumnType) (name : String) (setting : Setting)
    (v : Variant) : M (Option String) :=
  match settingValue setting with
  | .generator => do
    let expression ← expressionOr (sqlExpression t.name v) t name (.sql v)
    pure (expression.map ("DEFAULT " ++ ·))
  | value => do
    let stored ← storedDefault t value name
    match t.name == "decimal", stored with
    | true, .str digits => pure (some ("DEFAULT " ++ digits))
    | _, stored => do
      let literal ← ofExcept (Misuse.lift stored.sqlLiteral)
      pure (some ("DEFAULT " ++ literal))

/-- The clause for an identity column. In SQLite an integer key is one
without it. -/
def identityClause (setting : Setting) (v : Variant) : Except Fault (Option String) :=
  match v with
  | .mysql => .ok (some "AUTO_INCREMENT")
  | .sqlite => .ok none
  | .postgres => do
    match ← identityMode setting with
    | .always => pure (some "GENERATED ALWAYS AS IDENTITY")
    | .byDefault => pure (some "GENERATED BY DEFAULT AS IDENTITY")

/-- The clause for nullability, where the chain settles it. -/
def nullClause (chain : List Modifier) : Option String :=
  (lastSetting? .nullable chain).map fun s => if s.truthy then "NULL" else "NOT NULL"

def uniqueClause (chain : List Modifier) : Option String :=
  if (lastSetting? .unique chain).any Setting.truthy then some "UNIQUE" else none

def computedClause (generatedAs : Option String) : Option String :=
  if isGiven generatedAs then
    generatedAs.map fun e => s!"GENERATED ALWAYS AS ({e}) STORED"
  else none

/-- The clause for the comment of a column, which only MySQL has. -/
def commentClause (v : Variant) (comment : Option String) : Option String :=
  if v = .mysql ∧ isGiven comment then
    comment.map fun c => "COMMENT " ++ sqlString c
  else none

/-- The default of a column, where its type has one. -/
def defaultPart (t : ColumnType) (name : String) (v : Variant) : M (Option String) :=
  match lastSetting? .default t.modifiers with
  | some setting => defaultClause t name setting v
  | none => pure none

/-- The identity of a column, where its type has one that is on. -/
def identityPart (t : ColumnType) (v : Variant) : M (Option String) :=
  match lastSetting? .autoIncrement t.modifiers with
  | some setting =>
    if setting.truthy then ofExcept (identityClause setting v) else pure none
  | none => pure none

/-- The parts of a column: its fragment, then the clauses in their fixed
order. -/
def columnParts (t : ColumnType) (name : String) (options : Option Variant)
    (generatedAs comment : Option String) : M (List String) := do
  let v := Variant.ofOptions options
  let fragment ← base t .sql name options (name ++ " TEXT")
  let default ← defaultPart t name v
  let identity ← identityPart t v
  pure (fragment :: [
    nullClause t.modifiers, uniqueClause t.modifiers, default, identity,
    computedClause generatedAs, commentClause v comment].filterMap id)

def column (t : ColumnType) (name : String) (options : Option Variant)
    (generatedAs comment : Option String) : M String := do
  pure (" ".intercalate (← columnParts t name options generatedAs comment))

/-- One column of a table, its flags as modifiers. -/
def definition (name : String) (c : Column) (options : Option Variant) :
    M String :=
  column c.resolved name options c.generatedAs c.comment

/-- The bare SQL type of a column type: the fragment of a stand-in
column without its name and without a check. -/
def bareType (t : ColumnType) (options : Option Variant) : M String := do
  let standIn := "__column__"
  let fragment ← base t.base .sql standIn options (standIn ++ " TEXT")
  pure (beforeFirst " CHECK (" (dropOpening (standIn ++ " ") fragment))

/-! ## Tables -/

/-- An entry in the body of a table. -/
inductive Entry where
  /-- A column, perhaps with a comment line before it. -/
  | column (comment : Option String) (text : String)
  | primaryKey (columns : List String)
  | unique (columns : List String)
  | check (c : Check)

def Entry.comments : Entry → List String
  | column (some comment) _ => [s!"-- {comment}"]
  | _ => []

def Entry.text : Entry → String
  | column _ text => text
  | primaryKey columns => s!"PRIMARY KEY ({commas columns})"
  | unique columns => s!"UNIQUE ({commas columns})"
  | check c => s!"CONSTRAINT {c.name} CHECK ({c.expression})"

/-- The statement that creates a table, with the comments around it. -/
structure CreateTable where
  name : String
  before : List String
  entries : List Entry
  closing : String
  after : List String

/-- The lines of a table body: a comma after each entry but the last. -/
def bodyLines : List Entry → List String
  | [] => []
  | [last] => last.comments.map ("  " ++ ·) ++ ["  " ++ last.text]
  | entry :: rest =>
    entry.comments.map ("  " ++ ·) ++ ("  " ++ entry.text ++ ",") :: bodyLines rest

def CreateTable.text (t : CreateTable) : String :=
  lines (t.before ++ s!"CREATE TABLE {t.name} (" :: bodyLines t.entries ++
    t.closing :: t.after)

/-- A text that is not empty, if the condition holds. -/
def givenWhen (condition : Bool) (s : Option String) : Option String :=
  if condition && isGiven s then s else none

/-- The comments that PostgreSQL takes as statements of their own. -/
def commentStatements (t : Table) : List String :=
  ((givenWhen true t.comment).map fun c =>
    s!"COMMENT ON TABLE {t.name} IS {sqlString c};").toList ++
  t.columns.entries.filterMap fun (name, column) =>
    (givenWhen true column.comment).map fun c =>
      s!"COMMENT ON COLUMN {t.name}.{name} IS {sqlString c};"

/-- The end of the statement, where MySQL has the comment of the
table. -/
def closingLine (v : Variant) (comment : Option String) : String :=
  match givenWhen (v == .mysql) comment with
  | some c => s!") COMMENT={sqlString c};"
  | none => ");"

/-- The entry of a column. SQLite has its comment on a line before. -/
def columnEntry (options : Option Variant) (name : String) (c : Column) :
    M Entry := do
  let text ← definition name c options
  pure (.column (givenWhen (Variant.ofOptions options == .sqlite) c.comment) text)

/-- A table as a statement. The table itself must declare its key. -/
def createTable (t : Table) (options : Option Variant) : M CreateTable := do
  let v := Variant.ofOptions options
  if t.primaryKey.isEmpty then fail (.defect (.noTableKey t.name))
  else
    let _ ← ofDefect t.resolveKey
    let columns ← Noted.each (fun (name, c) => columnEntry options name c) t.columns.entries
    pure {
      name := t.name
      before := (givenWhen (v == .sqlite) t.comment).toList.map fun c => s!"-- {c}"
      entries := columns ++ .primaryKey t.primaryKey ::
        (t.uniques.map .unique ++ t.checks.map .check)
      closing := closingLine v t.comment
      after := if v = .postgres then commentStatements t else [] }

/-! ## Indexes -/

/-- The statement that creates a declared index. -/
structure CreateIndex where
  name : String
  table : String
  columns : List String
  unique : Bool
  /-- The access method where PostgreSQL has it. -/
  methodBefore : Option String
  /-- The access method where MySQL has it. -/
  methodAfter : Option String
  predicate : Option String
  deriving DecidableEq, Repr

/-- A word before a text that may be missing. -/
def clause (opening : String) (s : Option String) : String :=
  match s with
  | none => ""
  | some s => opening ++ s

def CreateIndex.text (i : CreateIndex) : String :=
  let unique := if i.unique then "UNIQUE " else ""
  s!"CREATE {unique}INDEX {i.name} ON {i.table}" ++
    clause " USING " i.methodBefore ++ s!" ({commas i.columns})" ++
    clause " USING " i.methodAfter ++ clause " WHERE " i.predicate ++ ";"

def hasMethod (v : Variant) (m : AccessMethod) : Bool :=
  match v with
  | .postgres => true
  | .mysql => m == .btree || m == .hash
  | .sqlite => false

/-- What an index loses in a variant: an access method that it lacks,
and in MySQL a predicate. -/
def indexLosses (v : Variant) (i : Index) : List Loss :=
  ((i.method.filter fun m => !hasMethod v m).map fun m =>
    Loss.accessMethod i.name m v).toList ++
  if v = .mysql ∧ isGiven i.predicate then [.partialSqlIndex i.name] else []

/-- An index as a statement, with what the variant has of it. -/
def indexStatement (v : Variant) (i : Index) : CreateIndex where
  name := i.name
  table := i.table
  columns := i.columns
  unique := i.unique
  methodBefore := (i.method.filter fun _ => v = .postgres).map AccessMethod.tag
  methodAfter := (i.method.filter fun m => v = .mysql ∧ hasMethod v m).map
    fun m => upper m.tag
  predicate := givenWhen (v != .mysql) i.predicate

def createIndex (options : Option Variant) (i : Index) : Emission CreateIndex :=
  let v := Variant.ofOptions options
  ⟨indexLosses v i, .ok (indexStatement v i)⟩

def createIndexes (e : Entity) (options : Option Variant) : Emission (List CreateIndex) :=
  Noted.each (createIndex options) e.allIndexes

/-! ## Constraints -/

/-- The statement that adds a constraint. -/
structure AddConstraint where
  table : String
  name : String
  kind : ConstraintKind
  definition : String
  deriving DecidableEq, Repr

/-- A list of columns in brackets, unless it stands in them already. -/
def bracketed (s : String) : String :=
  if s.toList.head? = some '(' then s else s!"({s})"

def AddConstraint.demand (c : AddConstraint) : String :=
  match c.kind with
  | .check => s!"CHECK ({c.definition})"
  | .foreignKey => s!"FOREIGN KEY {c.definition}"
  | .unique => s!"UNIQUE {bracketed c.definition}"
  | .primaryKey => s!"PRIMARY KEY {bracketed c.definition}"

def AddConstraint.text (c : AddConstraint) : String :=
  s!"ALTER TABLE {c.table} ADD CONSTRAINT {c.name} {c.demand};"

def addConstraints (e : Entity) : List AddConstraint :=
  e.constraints.map fun c => ⟨c.table, c.name, c.kind, trim c.definition⟩

end Emit.Sql

end Polyschema
