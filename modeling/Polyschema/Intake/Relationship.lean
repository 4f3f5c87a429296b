/-
Polyschema.Intake.Relationship — relationships read from their fields.

* `ForeignKey`, `Junction`, `Relationship` — each put together from
  readings of its fields, and read from whatever is given for it.

A tag for an action may be spelled with underscores, hyphens or blanks.
A relation that is not known is kept, so that it can be reported.
-/
import Polyschema.Intake.Column

namespace Polyschema

open Polyschema.Text Polyschema.Intake

/-! ## Foreign keys -/

namespace ForeignKey

def action : Part → Reading Action
  | .data (.str s) => member Action.ofTag? (.str (replaceChar ' ' '-' (normalTag s)))
  | p => member Action.ofTag? p

/-- A foreign key put together from its fields. -/
def assemble (localColumn foreignColumn : Reading String)
    (onDelete onUpdate : Reading Action) (indexed deferrable : Reading Bool)
    (constraintName : Reading (Option String)) : Reading ForeignKey :=
  ForeignKey.mk <$> localColumn.inField "local_column"
    <*> foreignColumn.inField "foreign_column"
    <*> onDelete.inField "on_delete"
    <*> onUpdate.inField "on_update"
    <*> indexed.inField "indexed"
    <*> deferrable.inField "deferrable"
    <*> constraintName.inField "constraint_name"

/-- A foreign key of what is given for its fields. Rows follow the row
they refer to, and the key has an index, if nothing else is said. -/
def ofFields (f : Fields) : Reading ForeignKey :=
  f.closed ["local_column", "foreign_column", "on_delete", "on_update", "indexed",
      "deferrable", "constraint_name"]
    (assemble (f.required "local_column" name) (f.required "foreign_column" name)
      (f.optional "on_delete" .cascade action) (f.optional "on_update" .cascade action)
      (f.optional "indexed" true truth) (f.optional "deferrable" false truth)
      (f.optional "constraint_name" none (nullable text)))

def ofPart : Part → Reading ForeignKey :=
  Part.model (fun | .foreignKey k => some k | _ => none) ofFields

end ForeignKey

/-! ## Junctions -/

namespace Junction

/-- A junction put together from its fields. -/
def assemble (name localColumn foreignColumn : Reading String)
    (extras : Reading (Keyed Column)) : Reading Junction :=
  Junction.mk <$> name.inField "name"
    <*> localColumn.inField "local_column"
    <*> foreignColumn.inField "foreign_column"
    <*> extras.inField "extra_columns"

def ofFields (f : Fields) : Reading Junction :=
  f.closed ["name", "local_column", "foreign_column", "extra_columns"]
    (assemble (f.required "name" Intake.name) (f.required "local_column" Intake.name)
      (f.required "foreign_column" Intake.name)
      (f.optional "extra_columns" .empty (dictOf Column.ofPart)))

def ofPart : Part → Reading Junction :=
  Part.model (fun | .junction j => some j | _ => none) ofFields

end Junction

/-! ## Relationships -/

def RelationTag.ofPart : Part → Reading RelationTag
  | .data (.str s) => .done (.ofText s)
  | _ => .failed [
      ⟨.notMember, [.field "str-enum[RelationType]"]⟩, ⟨.notText, [.field "str"]⟩]

/-- A side: a table, or the name of one. -/
def Side.ofPart : Part → Reading Side
  | .data (.str s) => .done (.named s)
  | p => match Table.ofPart p with
    | .done t => .done (.linked t)
    | .failed ps =>
      .failed (⟨.notText, [.field "str"]⟩ :: ps.map (Problem.under (.field "Table")))

namespace Relationship

/-- A relationship put together from its fields. -/
def assemble (name : Reading String) (relation : Reading RelationTag)
    (localSide foreignSide : Reading Side) (foreignKey : Reading ForeignKey)
    (junction : Reading (Option Junction)) (description : Reading (Option String)) :
    Reading Relationship :=
  Relationship.mk <$> name.inField "name"
    <*> relation.inField "relation_type"
    <*> localSide.inField "local_entity"
    <*> foreignSide.inField "foreign_entity"
    <*> foreignKey.inField "foreign_key"
    <*> junction.inField "junction_table"
    <*> description.inField "description"

def ofFields (f : Fields) : Reading Relationship :=
  f.closed ["name", "relation_type", "local_entity", "foreign_entity", "foreign_key",
      "junction_table", "description"]
    (assemble (f.required "name" Intake.name)
      (f.required "relation_type" RelationTag.ofPart)
      (f.required "local_entity" Side.ofPart) (f.required "foreign_entity" Side.ofPart)
      (f.required "foreign_key" ForeignKey.ofPart)
      (f.optional "junction_table" none (nullable Junction.ofPart))
      (f.optional "description" none (nullable text)))

def ofPart : Part → Reading Relationship :=
  Part.model (fun | .relationship r => some r | _ => none) ofFields

end Relationship

end Polyschema
