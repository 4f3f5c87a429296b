/-
Polyschema.Builder.Relationship — relationships put together step by
step.

* `RelationshipBuilder` — what was said so far.
* `RelationshipBuilder.build` — the relationship. The columns of a
  junction are named after the tables if nothing else is said.
-/
import Polyschema.Intake.Relationship
import Polyschema.Text.Name
import Polyschema.Value.Equal

namespace Polyschema

open Polyschema.Text

/-- The parts that a part lists, a text being a list of its letters. -/
def Part.listed? (p : Part) : Option (List Part) :=
  match p.sequence? with
  | some items => some items
  | none => p.asValue.items?.map (·.map .data)

/-- A junction in the making. -/
structure JunctionSpec where
  name : Part
  localColumn : Part
  foreignColumn : Part
  extras : Fields

/-- A relationship in the making. -/
structure RelationshipBuilder where
  name : Part
  description : Part
  cardinality : Option Cardinality
  localSide : Part
  foreignSide : Part
  foreignKey : Option ForeignKey
  junction : Option JunctionSpec

namespace RelationshipBuilder

def create (name : Part) : RelationshipBuilder where
  name := name
  description := .null
  cardinality := none
  localSide := .null
  foreignSide := .null
  foreignKey := none
  junction := none

/-- A side: an entity stands for its table. -/
def sideOf : Part → Part
  | .entity e => .table e.table
  | p => p

def between (near far : Part) (b : RelationshipBuilder) : RelationshipBuilder :=
  { b with localSide := sideOf near, foreignSide := sideOf far }

def pairOf (p : Part) : Except Fault (Value × Part) :=
  match p.listed? with
  | some [key, part] =>
    if key.asValue.hashable then .ok (key.asValue, part) else .error (.misuse .wrongKind)
  | some _ => .error (.misuse .badContent)
  | none => .error (.misuse .wrongKind)

/-- The entries of what is given for further columns: a mapping, or
pairs. -/
def extrasOf (p : Part) : Except Fault Fields :=
  match p.entries? with
  | some entries => .ok entries
  | none =>
    if p.asValue.truthy then
      match p.listed? with
      | some items => entriesOf <$> items.mapM pairOf
      | none => .error (.misuse .wrongKind)
    else .ok []

/-- The relationship made many-to-many. It is that already when what is
given for further columns turns out to hold no entries. -/
def manyToMany (name localColumn foreignColumn extras : Part) (b : RelationshipBuilder) :
    RelationshipBuilder × Option Fault :=
  let b := { b with cardinality := some .manyToMany }
  match extrasOf extras with
  | .ok entries => ({ b with junction := some ⟨name, localColumn, foreignColumn, entries⟩ }, none)
  | .error f => (b, some f)

def withForeignKey (fields : Fields) (b : RelationshipBuilder) :
    Except Fault RelationshipBuilder := do
  pure { b with foreignKey := some (← (ForeignKey.ofFields fields).orFault) }

/-- The name of the table on a side. -/
def sideName : Part → Except Fault Value
  | .data (.str s) => .ok (.str s)
  | .table t => .ok (.str t.name)
  | .column _ | .type _ => .error (.misuse .noPart)
  | .check c => .ok (.str c.name)
  | .relationship r => .ok (.str r.name)
  | _ => .error (.misuse .noPart)

/-- A column of the junction: as it is given, or named after the table
on its side. -/
def keyColumn (given side : Part) : Except Fault Part :=
  if given.asValue.truthy then .ok given
  else do match ← sideName side with
    | .str s => pure (.str (camel s ++ "Id"))
    | _ => throw (.misuse .wrongKind)

/-- The junction between two sides. -/
def junctionOf (j : JunctionSpec) (near far : Part) : Except Fault Junction := do
  let localColumn ← keyColumn j.localColumn near
  let foreignColumn ← keyColumn j.foreignColumn far
  (Junction.ofFields [(.str "name", j.name), (.str "local_column", localColumn),
    (.str "foreign_column", foreignColumn), (.str "extra_columns", .dict j.extras)]).orFault

/-- The relationship, once its cardinality, both sides and the foreign
key are known. -/
def build (b : RelationshipBuilder) : Except Fault Relationship := do
  let name := b.name.asValue.text
  let some c := b.cardinality | throw (.refused (.noRelation name))
  if b.localSide.isNull || b.foreignSide.isNull then throw (.refused (.noSides name))
  let some key := b.foreignKey | throw (.refused (.noForeignKey name))
  let junction ← match b.junction with
    | none => pure .null
    | some j => Part.junction <$> junctionOf j b.localSide b.foreignSide
  (Relationship.ofFields [(.str "name", b.name), (.str "relation_type", .str c.tag),
    (.str "local_entity", b.localSide), (.str "foreign_entity", b.foreignSide),
    (.str "foreign_key", .foreignKey key), (.str "junction_table", junction),
    (.str "description", b.description)]).orFault

end RelationshipBuilder

end Polyschema
