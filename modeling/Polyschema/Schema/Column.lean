/-
Polyschema.Schema.Column — the columns of a table.

* `Column` — a column type and the flags of one column.
* `Column.resolved` — the type with the flags as modifiers.
-/
import Polyschema.Kind.Basic

namespace Polyschema

def isGiven (s : Option String) : Bool := s.any (· != "")

/-- Whether an expression for a column may stand beside its default and
its identity: a computed column has neither. -/
def computedAlone (generatedAs : Option String) (default : Option Value)
    (autoIncrement : Bool) : Bool :=
  !(isGiven generatedAs && (default.isSome || autoIncrement))

/-- A column. Its default is never null: a column without one has
`none`. -/
structure Column where
  type : ColumnType
  nullable : Bool
  unique : Bool
  primary : Bool
  autoIncrement : Bool
  indexed : Bool
  generated : Option Generation
  generatedAs : Option String
  default : Option Value
  comment : Option String
  computed_alone : computedAlone generatedAs default autoIncrement = true

namespace Column

def plain (type : ColumnType) : Column where
  type := type
  nullable := false
  unique := false
  primary := false
  autoIncrement := false
  indexed := false
  generated := none
  generatedAs := none
  default := none
  comment := none
  computed_alone := rfl

/-- The type of a column with its flags as modifiers, in the order
nullable, unique, primary key, default, identity. Nullability is always
recorded, so that every dialect sees an explicit choice. -/
def resolved (c : Column) : ColumnType :=
  let t := c.type.withNullable c.nullable
  let t := if c.unique then t.withUnique true else t
  let t := if c.primary then t.withPrimaryKey true else t
  let t := match c.default with
    | some value => t.withDefault value
    | none => t
  if c.autoIncrement then t.withAutoIncrement (c.generated.getD .byDefault) else t

theorem resolved_kind (c : Column) : c.resolved.kind = c.type.kind := by
  unfold Column.resolved
  cases c.unique <;> cases c.primary <;> cases c.default <;> cases c.autoIncrement <;> rfl

/-- The column with its key flag set. -/
def withPrimary (c : Column) (primary : Bool) : Column := { c with primary := primary }

/-- Whether the default comes from a source of values. -/
def defaultIsGenerated (c : Column) : Bool :=
  match c.default with
  | some .generator => true
  | _ => false

def shown (c : Column) : String :=
  let flag (set : Bool) (name : String) : String := if set then " " ++ name else ""
  s!"<Column {c.type.name}" ++ flag c.primary "PRIMARY" ++ flag c.unique "UNIQUE" ++
    flag c.nullable "NULLABLE" ++ flag c.autoIncrement "AUTO_INCREMENT" ++ ">"

end Column

end Polyschema
