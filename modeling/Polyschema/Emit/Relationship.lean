/-
Polyschema.Emit.Relationship — relationships as SQL.

* `Linkage` — the statements for one relationship: a foreign key with
  its index, or a junction table with two indexes.
* `relationship`, `relationships` — the statements of one relationship
  and of all that an entity has.

A side that is known only by name is not checked, and its key is taken
for a UUID. A side named like the owner of the relationship is the
owner.
-/
import Polyschema.Emit.Sql

namespace Polyschema

open Polyschema.Text

namespace Emit

open Emitting

variable {M : Type → Type} [Emitting M]

/-! ## Statements -/

/-- The statement that adds a foreign key. -/
structure AddForeignKey where
  table : String
  name : String
  column : String
  foreignTable : String
  foreignColumn : String
  onDelete : Action
  onUpdate : Action
  deferred : Bool
  deriving DecidableEq, Repr

def AddForeignKey.text (k : AddForeignKey) : String :=
  let deferred := if k.deferred then " DEFERRABLE INITIALLY DEFERRED" else ""
  s!"ALTER TABLE {k.table} ADD CONSTRAINT {k.name} FOREIGN KEY ({k.column}) " ++
    s!"REFERENCES {k.foreignTable}({k.foreignColumn}) " ++
    s!"ON DELETE {k.onDelete.sql} ON UPDATE {k.onUpdate.sql}{deferred};"

/-- The statement that creates the index of a key column. -/
structure KeyIndex where
  table : String
  column : String
  unique : Bool
  deriving DecidableEq, Repr

def KeyIndex.name (i : KeyIndex) : String := s!"idx_{i.table}_{i.column}"

def KeyIndex.text (i : KeyIndex) : String :=
  let unique := if i.unique then "UNIQUE " else ""
  s!"CREATE {unique}INDEX {i.name} ON {i.table}({i.column});"

/-- A key column of a junction. -/
structure KeyColumn where
  name : String
  type : String
  foreignTable : String
  foreignColumn : String
  deriving DecidableEq, Repr

/-- A key column as it stands in the body of the junction. -/
def KeyColumn.text (c : KeyColumn) : String :=
  s!"{c.name} {c.type} NOT NULL REFERENCES {c.foreignTable}({c.foreignColumn}) " ++
    "ON DELETE CASCADE"

/-- The statement that creates a junction. -/
structure CreateJunction where
  name : String
  localKey : KeyColumn
  foreignKey : KeyColumn
  /-- The further columns with their text. -/
  extras : List (String × String)
  deriving DecidableEq, Repr

def CreateJunction.columnNames (j : CreateJunction) : List String :=
  j.localKey.name :: j.foreignKey.name :: j.extras.map Prod.fst

def CreateJunction.primaryKey (j : CreateJunction) : List String :=
  [j.localKey.name, j.foreignKey.name]

def CreateJunction.body (j : CreateJunction) : List String :=
  j.localKey.text :: j.foreignKey.text :: j.extras.map Prod.snd ++
    [s!"PRIMARY KEY ({commas j.primaryKey})"]

def CreateJunction.text (j : CreateJunction) : String :=
  lines [s!"CREATE TABLE {j.name} (",
    ",\n".intercalate (j.body.map ("  " ++ ·)),
    ");"]

/-- The statements for a relationship. -/
inductive Linkage where
  | direct (label : String) (key : AddForeignKey) (index : Option KeyIndex)
  | junction (localTable foreignTable : String) (table : CreateJunction)
      (indexes : List KeyIndex)

namespace Linkage

def createdTables : Linkage → List String
  | direct _ _ _ => []
  | junction _ _ table _ => [table.name]

def keyIndexes : Linkage → List KeyIndex
  | direct _ _ index => index.toList
  | junction _ _ _ indexes => indexes

/-- The statements as text, after a comment line. -/
def text : Linkage → String
  | direct label key index =>
    lines (s!"-- {label} relationship: {key.table} -> {key.foreignTable}" ::
      key.text :: index.toList.map KeyIndex.text)
  | junction localTable foreignTable table indexes =>
    lines ([s!"-- Many-to-many relationship: {localTable} <-> {foreignTable} via {table.name}",
      table.text, "", "-- Indexes for performance"] ++ indexes.map KeyIndex.text)

end Linkage

/-! ## Checks -/

/-- The defect of a column that a known side does not have. -/
def absentColumn? (relationship : String) (side : Option Table) (column : String) :
    Option Defect :=
  side.bind fun t =>
    if t.columns.has column then none
    else some (.absentReference relationship t.name column)

def junctionDefect? (relationship : String) (j : Junction) : Option Defect :=
  if j.localColumn = j.foreignColumn then
    some (.sharedJunctionColumn relationship j.name j.localColumn)
  else
    (j.extras.names.find? fun n => n == j.localColumn || n == j.foreignColumn).map
      (.extraJunctionColumn relationship j.name)

/-- The defect of a relationship seen from a table that its sides may
name. -/
def linkDefect? (context : Option Table) (r : Relationship) : Option Defect :=
  let columns :=
    match absentColumn? r.name (r.localSide.within context) r.foreignKey.localColumn with
    | some d => some d
    | none =>
      absentColumn? r.name (r.foreignSide.within context) r.foreignKey.foreignColumn
  match r.relation with
  | .unknown tag => some (.unknownRelation r.name r.localSide.name tag)
  | .known .manyToMany => match r.junction with
    | none => some (.noJunction r.name r.localSide.name)
    | some j => match junctionDefect? r.name j with
      | some d => some d
      | none => columns
  | .known _ => columns

/-! ## Emission -/

def addForeignKey (v : Variant) (r : Relationship) : AddForeignKey where
  table := r.localSide.name
  name := (r.foreignKey.constraintName.filter (· != "")).getD
    s!"fk_{r.localSide.name}_{r.foreignSide.name}"
  column := r.foreignKey.localColumn
  foreignTable := r.foreignSide.name
  foreignColumn := r.foreignKey.foreignColumn
  onDelete := r.foreignKey.onDelete
  onUpdate := r.foreignKey.onUpdate
  deferred := r.foreignKey.deferrable && v != .mysql

/-- What a foreign key loses in a variant. -/
def foreignKeyLosses (v : Variant) (r : Relationship) : List Loss :=
  (if v = .sqlite then
    [.addedForeignKey r.name r.localSide.name r.foreignKey.localColumn] else []) ++
  if r.foreignKey.deferrable ∧ v = .mysql then [.deferrable r.name] else []

/-- A relationship that a foreign key realizes. -/
def directLink (c : Cardinality) (r : Relationship) (options : Option Variant) :
    M Linkage := do
  let v := Variant.ofOptions options
  let index : KeyIndex := ⟨r.localSide.name, r.foreignKey.localColumn, c == .oneToOne⟩
  losses (foreignKeyLosses v r)
  pure (.direct c.label (addForeignKey v r)
    (if r.foreignKey.indexed then some index else none))

/-- The type of a key column: that of the column it refers to, or a UUID
where the table is not known. -/
def keyType (side : Option Table) (column : String) (options : Option Variant) :
    M String :=
  match side.bind fun t => t.columns.get? column with
  | some c => Sql.bareType c.type options
  | none => Sql.bareType (.plain .uuid) options

def junctionLink (j : Junction) (r : Relationship) (options : Option Variant)
    (context : Option Table) : M Linkage := do
  let localType ← keyType (r.localSide.within context) r.foreignKey.localColumn options
  let foreignType ← keyType (r.foreignSide.within context) r.foreignKey.foreignColumn options
  let extras ← Noted.each
    (fun (name, c) => do pure (name, ← Sql.definition name c options)) j.extras.entries
  let table : CreateJunction := {
    name := j.name
    localKey := ⟨j.localColumn, localType, r.localSide.name, r.foreignKey.localColumn⟩
    foreignKey :=
      ⟨j.foreignColumn, foreignType, r.foreignSide.name, r.foreignKey.foreignColumn⟩
    extras := extras }
  pure (.junction r.localSide.name r.foreignSide.name table
    [⟨j.name, j.localColumn, false⟩, ⟨j.name, j.foreignColumn, false⟩])

/-- The statements for a relationship. A side that is only named may be
the given table. -/
def relationship (r : Relationship) (options : Option Variant)
    (context : Option Table) : M Linkage :=
  match linkDefect? context r with
  | some d => fail (.defect d)
  | none => match r.relation, r.junction with
    | .known .manyToMany, some j => junctionLink j r options context
    | .known c, _ => directLink c r options
    | .unknown tag, _ => fail (.defect (.unknownRelation r.name r.localSide.name tag))

def relationships (e : Entity) (options : Option Variant) : Emission (List Linkage) :=
  Noted.each (fun r => relationship r options (some e.table)) e.relationships

end Emit

end Polyschema
