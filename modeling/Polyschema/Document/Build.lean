/-
Polyschema.Document.Build — the entities that a document describes.

* `ColumnDraft.column`, `EntityDraft.table`, `EntityDraft.entity` — the
  pieces that drafts stand for.
* `Document.entities` — all entities. A relationship that names a table
  of the document is linked to it, so that its columns can be checked.

All tables are made before the first entity, and an id may occur only
once.
-/
import Polyschema.Document.Draft
import Polyschema.Event
import Polyschema.Kind.Codec
import Polyschema.Kind.Make
import Polyschema.Noted
import Polyschema.Text.Name

namespace Polyschema

open Polyschema.Text Polyschema.Number Polyschema.Intake

/-! ## Columns -/

namespace ColumnDraft

def arguments (c : ColumnDraft) (kind : String) : List Value :=
  let number (n : Option Int) : Value := Value.ofOption .int n
  if kind ∈ ["string", "varchar", "text"] then [number c.length]
  else if kind ∈ ["decimal", "numeric"] then [number c.precision, number c.scale]
  else if kind = "enum" then [.strings (c.members.getD [])]
  else if kind = "array" then [.str ((c.element.filter (· != "")).getD "string")]
  else []

def columnType (c : ColumnDraft) : Except Fault ColumnType :=
  let kind := lower (trim c.type)
  makeType (.str kind) ⟨(c.arguments kind).map .data, []⟩

/-- The kinds of which a document writes defaults as text. -/
def textKinds : List String := ["decimal", "date", "timestamp", "datetime", "numeric"]

/-- The default of the column. Documents write decimals, dates and
moments as text, and a decimal may be written as a number too. -/
def typedDefault (c : ColumnDraft) (t : ColumnType) : Except Fault Value :=
  if c.defaultGenerated then .ok .generator
  else match c.default with
    | .str s => if t.name ∈ textKinds then t.deserialize (.str s) else .ok (.str s)
    | .float x =>
      if t.name = "decimal" then .ok (((readDecimal? x.text).map .decimal).getD (.float x))
      else .ok (.float x)
    | v => .ok v

end ColumnDraft

/-- A piece of an entity, which is refused if it cannot be made. -/
def EntityDraft.piece {α : Type} (entity model : String) : Reading α → Except Fault α
  | .done a => .ok a
  | .failed ps => .error (.refused (.badEntity entity model ps))

def ColumnDraft.column (entity : String) (c : ColumnDraft) : Except Fault Column := do
  let t ← c.columnType
  let default ← c.typedDefault t
  EntityDraft.piece entity "Column"
    (Column.ofParts t c.nullable c.unique c.primary c.autoIncrement c.indexed
      c.generated c.generatedAs (Column.defaultOf default) c.comment)

/-! ## Tables -/

namespace EntityDraft

def entityName (e : EntityDraft) : EntityName :=
  let singular := (e.singular.filter (· != "")).getD e.id
  { singular := singular
    plural := (e.plural.filter (· != "")).getD (Text.plural singular)
    display := e.display
    database := e.givenTable }

/-- The name of the table: as it is given, or the plural in small
letters. -/
def tableName (e : EntityDraft) : String :=
  (e.givenTable.filter (· != "")).getD (lower e.entityName.plural)

def table (e : EntityDraft) : Except Fault Table := do
  let columns ← e.columns.mapEntries fun _ c => c.column e.id
  let checks ← e.checks.mapM fun c =>
    piece e.id "CheckConstraint" (Check.assemble (nonEmpty c.name) (nonEmpty c.expression))
  pure {
    name := e.tableName
    columns := columns
    primaryKey := e.primaryKey
    uniques := e.uniques
    checks := checks
    comment := e.comment }

end EntityDraft

/-! ## Relationships, indexes and constraints -/

namespace RelationshipDraft

def junctionOf (entity : String) (j : JunctionDraft) : Except Fault Junction := do
  let extras ← j.extras.mapEntries fun _ c => c.column entity
  EntityDraft.piece entity "JunctionTableSpec"
    (Junction.assemble (nonEmpty j.name) (nonEmpty j.localColumn)
      (nonEmpty j.foreignColumn) (.done extras))

def foreignKeyOf (entity : String) (k : ForeignKeyDraft) : Except Fault ForeignKey :=
  EntityDraft.piece entity "ForeignKeySpec"
    (ForeignKey.assemble (nonEmpty k.localColumn) (nonEmpty k.foreignColumn)
      (.done k.onDelete) (.done k.onUpdate) (.done k.indexed) (.done k.deferrable)
      (.done k.constraintName))

/-- The relationship of a draft. `side` is the side that a name stands
for, and `home` the table of the entity. -/
def relationship (entity home : String) (side : String → Side) (r : RelationshipDraft) :
    Except Fault Relationship := do
  let junction ← r.junction.mapM (junctionOf entity)
  let foreignKey ← foreignKeyOf entity r.foreignKey
  let start := (r.localSide.filter (· != "")).getD home
  EntityDraft.piece entity "Relationship"
    (Relationship.assemble (nonEmpty r.name) (.done (.ofText r.relation))
      (.done (side start)) (.done (side r.foreignSide)) (.done foreignKey)
      (.done junction) (.done r.description))

end RelationshipDraft

def IndexDraft.index (entity table : String) (i : IndexDraft) : Except Fault Index :=
  EntityDraft.piece entity "Index"
    (Index.assemble (nonEmpty i.name) (.done table) (.done i.columns) (.done i.unique)
      (.done i.predicate) (.done i.method))

def ConstraintDraft.constraint (entity table : String) (c : ConstraintDraft) :
    Except Fault Constraint :=
  EntityDraft.piece entity "Constraint"
    (Constraint.assemble (nonEmpty c.name) (.done table) (Constraint.kindOf (.str c.kind))
      (nonEmpty c.definition))

/-! ## Entities -/

/-- The side that a name stands for: the last of the tables with that
name, or else the name itself. -/
def Side.among (tables : List Table) (name : String) : Side :=
  match tables.reverse.find? (·.name == name) with
  | some t => .linked t
  | none => .named name

/-- The entity of a draft with its table, among the tables of the
document. -/
def EntityDraft.entity (tables : List Table) (e : EntityDraft) (table : Table) :
    Except Fault Entity := do
  let relationships ←
    e.relationships.mapM (·.relationship e.id table.name (Side.among tables))
  let indexes ← e.indexes.mapM (·.index e.id table.name)
  let constraints ← e.constraints.mapM (·.constraint e.id table.name)
  pure {
    id := e.id
    name := e.entityName
    version := e.version
    description := e.description
    table := table
    fields := e.fields.entries
    relationships := relationships
    indexes := indexes
    constraints := constraints }

namespace Document

/-- Drafts with their tables; `seen` are the ids that came before. -/
def withTables (seen : List String) :
    List EntityDraft → Except Fault (List (EntityDraft × Table))
  | [] => .ok []
  | e :: rest => do
    if seen.contains e.id then throw (.refused (.repeatedEntity e.id))
    let table ← e.table
    pure ((e, table) :: (← withTables (e.id :: seen) rest))

def build (d : Document) : Except Fault (List Entity) := do
  let drafts ← withTables [] d.entities
  drafts.mapM fun (e, table) => e.entity (drafts.map Prod.snd) table

/-- The entities and the settings that raw data describes. -/
def read (raw : Part) : Noted Event (List Entity × Config) := do
  let document ← .ofExcept <| match Document.ofPart raw with
    | .done d => .ok d
    | .failed ps => .error (.refused (.badDocument ps))
  let entities ← .ofExcept document.build
  .note (.parsed entities.length)
  pure (entities, document.config)

end Document

end Polyschema
