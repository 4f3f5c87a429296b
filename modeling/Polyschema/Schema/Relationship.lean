/-
Polyschema.Schema.Relationship — how tables refer to each other.

* `Relationship` — two sides, a foreign key and, for many-to-many, a
  junction table.
* `Side` — a table in full or only by its name.
-/
import Polyschema.Schema.Table

namespace Polyschema

open Polyschema.Text

/-- How many rows of either side belong together. -/
inductive Cardinality where
  | oneToOne
  | oneToMany
  | manyToOne
  | manyToMany
  deriving DecidableEq, Repr, Inhabited

namespace Cardinality

def all : List Cardinality := [oneToOne, oneToMany, manyToOne, manyToMany]

def tag : Cardinality → String
  | oneToOne => "one-to-one"
  | oneToMany => "one-to-many"
  | manyToOne => "many-to-one"
  | manyToMany => "many-to-many"

def ofTag? (s : String) : Option Cardinality := all.find? (·.tag == s)

/-- A name stands for the cardinality it was written for. -/
theorem ofTag?_tag (c : Cardinality) : ofTag? c.tag = some c := by
  cases c <;> decide

/-- The words that open the emitted text of a relationship. -/
def label : Cardinality → String
  | oneToOne => "One-to-one"
  | oneToMany => "One-to-many"
  | manyToOne => "Many-to-one"
  | manyToMany => "Many-to-many"

end Cardinality

/-- A tag in small letters, with hyphens for underscores and no blanks
around. -/
def normalTag (s : String) : String := replaceChar '_' '-' (lower (trim s))

/-- A cardinality, or a name that stands for none and is kept as it is
given. -/
inductive RelationTag where
  | known (c : Cardinality)
  | unknown (tag : String)
  deriving DecidableEq, Repr

namespace RelationTag

/-- The relation that a name stands for in any spelling. -/
def ofText (s : String) : RelationTag :=
  match Cardinality.ofTag? (normalTag s) with
  | some c => known c
  | none => unknown s

def text : RelationTag → String
  | known c => c.tag
  | unknown tag => tag

end RelationTag

/-- What happens to a row when the row it refers to goes or changes. -/
inductive Action where
  | cascade
  | setNull
  | restrict
  | noAction
  deriving DecidableEq, Repr, Inhabited

namespace Action

def all : List Action := [cascade, setNull, restrict, noAction]

def tag : Action → String
  | cascade => "cascade"
  | setNull => "set-null"
  | restrict => "restrict"
  | noAction => "no-action"

def ofTag? (s : String) : Option Action := all.find? (·.tag == s)

/-- A name stands for the action it was written for. -/
theorem ofTag?_tag (a : Action) : ofTag? a.tag = some a := by
  cases a <;> decide

def sql : Action → String
  | cascade => "CASCADE"
  | setNull => "SET NULL"
  | restrict => "RESTRICT"
  | noAction => "NO ACTION"

end Action

/-- A foreign key. -/
structure ForeignKey where
  localColumn : String
  foreignColumn : String
  onDelete : Action
  onUpdate : Action
  indexed : Bool
  deferrable : Bool
  constraintName : Option String
  deriving DecidableEq, Repr

/-- The table that realizes a many-to-many relationship. -/
structure Junction where
  name : String
  localColumn : String
  foreignColumn : String
  extras : Keyed Column

/-- One side of a relationship. -/
inductive Side where
  | named (name : String)
  | linked (table : Table)

namespace Side

/-- The name of the table on a side. -/
def name : Side → String
  | named name => name
  | linked table => table.name

/-- The table on a side, where it is given in full. -/
def table? : Side → Option Table
  | named _ => none
  | linked table => some table

/-- The table on a side, the given one counting for its own name. -/
def within (context : Option Table) (s : Side) : Option Table :=
  match s.table? with
  | some table => some table
  | none => context.filter fun t => t.name == s.name

end Side

/-- A relationship between two tables. -/
structure Relationship where
  name : String
  relation : RelationTag
  localSide : Side
  foreignSide : Side
  foreignKey : ForeignKey
  junction : Option Junction
  description : Option String

def Relationship.shown (r : Relationship) : String :=
  s!"<Relationship {r.name} ({r.relation.text}) {r.localSide.name} → {r.foreignSide.name}>"

end Polyschema
