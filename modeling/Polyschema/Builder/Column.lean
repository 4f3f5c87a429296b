/-
Polyschema.Builder.Column — columns put together step by step.

* `ColumnBuilder` — the options set so far. Nothing is judged before the
  column is built.
-/
import Polyschema.Intake.Column
import Polyschema.Kind.Make

namespace Polyschema

def Part.asArgument : Part → Argument
  | type t => .type t
  | p => .data p.asValue

/-- A column in the making: its type, and its options in the order in
which they were first set. -/
structure ColumnBuilder where
  type : Part
  options : List (String × Part)

namespace ColumnBuilder

def ofType (type : Part) : ColumnBuilder := ⟨type, []⟩

/-- A column of a type, or of the type that a name and parameters stand
for. -/
def create (type : Part) (params : List Part) : Except Fault ColumnBuilder :=
  match type with
  | .data (.str name) =>
    (fun t => ofType (.type t)) <$> makeType (.str name) ⟨params.map Part.asArgument, []⟩
  | p => .ok (ofType p)

/-- Options with one of them set; one that was set before keeps its
place. -/
def putOption (name : String) (p : Part) : List (String × Part) → List (String × Part)
  | [] => [(name, p)]
  | (n, q) :: rest =>
    if n = name then (n, p) :: rest else (n, q) :: putOption name p rest

def set (name : String) (p : Part) (b : ColumnBuilder) : ColumnBuilder :=
  { b with options := putOption name p b.options }

/-- The column with a flag set, which is true if nothing is given. -/
def flag (name : String) (given : Option Part) (b : ColumnBuilder) : ColumnBuilder :=
  b.set name (given.getD (.data (.bool true)))

def generated (mode : Part) (b : ColumnBuilder) : Except Fault ColumnBuilder :=
  match mode.asValue.asString?.bind Generation.ofTag? with
  | some g => .ok (b.set "generated" (.str g.tag))
  | none => .error (.misuse .badContent)

def names (b : ColumnBuilder) : List String := b.options.map Prod.fst

def build (b : ColumnBuilder) : Except Fault Column :=
  (Column.ofFields ((.str "column_type", b.type) ::
    b.options.map fun (n, p) => (.str n, p))).orFault

end ColumnBuilder

end Polyschema
