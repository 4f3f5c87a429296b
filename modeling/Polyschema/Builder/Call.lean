/-
Polyschema.Builder.Call — builders called by name.

* `Builder` — a builder of any sort.
* `Given` — an argument: a part, or a builder.
* `Builder.make` — a new builder, by the name of its sort and of its
  maker.
* `Builder.call` — a method by its name, with arguments that have to fit
  its parameters.
-/
import Polyschema.Builder.Entity
import Polyschema.Intake.Arguments

namespace Polyschema

/-- A builder of any sort. -/
inductive Builder where
  | column (b : ColumnBuilder)
  | entity (b : EntityBuilder)
  | relationship (b : RelationshipBuilder)

/-- What is given for a parameter. -/
inductive Given where
  | part (p : Part)
  | builder (b : Builder)

def Given.asPart : Given → Part
  | part p => p
  | builder _ => .data (.typeRef "builder" "<builder>")

/-- What a method leads to. -/
inductive Outcome where
  /-- The builder itself, changed. -/
  | changed (b : Builder)
  | result (p : Part)
  /-- The builder is changed, but the method fails. -/
  | broken (b : Builder) (f : Fault)

abbrev Call := Arguments Given

namespace Call

def bind (needed : Nat) (parameters : List String) (c : Call) :
    Except Fault (List (Option Given)) :=
  match c.bindFirst? needed parameters with
  | some bound => .ok bound
  | none => .error (.misuse .wrongKind)

def parts (needed : Nat) (parameters : List String) (c : Call) :
    Except Fault (Nat → Option Part) := do
  let bound ← bind needed parameters c
  pure fun n => (bound[n]?.getD none).map Given.asPart

def only (parameter : String) (c : Call) : Except Fault Part := do
  pure (((← parts 1 [parameter] c) 0).getD .null)

def nothing (c : Call) : Except Fault Unit := do
  let _ ← bind 0 [] c

/-- All arguments of a method that takes any number. -/
def every (c : Call) : Except Fault (List Part) :=
  if c.named.isEmpty then .ok (c.placed.map Given.asPart)
  else .error (.misuse .wrongKind)

end Call

def orNull (p : Option Part) : Part := p.getD .null

def orNo (p : Option Part) : Part := p.getD (.data (.bool false))

/-! ## Methods of columns -/

def ColumnBuilder.call (b : ColumnBuilder) (method : String) (c : Call) :
    Except Fault Outcome := do
  let done (b : ColumnBuilder) : Except Fault Outcome := pure (.changed (.column b))
  match method with
  | "nullable" | "unique" | "indexed" | "primary" | "auto_increment" => do
    let given ← c.parts 0 [method]
    done (b.flag method (given 0))
  | "default" => do done (b.set method (← c.only "value"))
  | "generated" => do
    let b ← b.generated (← c.only "kind")
    done b
  | "generated_as" => do done (b.set method (← c.only "expression"))
  | "comment" => do done (b.set method (← c.only "comment"))
  | "build" => do
    c.nothing
    pure (.result (.column (← b.build)))
  | _ => throw (.misuse .noPart)

/-! ## Methods of relationships -/

def foreignKeyParameters : List String := [
  "local_column", "foreign_column", "on_delete", "on_update", "indexed", "deferrable",
  "constraint_name"]

def foreignKeyFields (given : Nat → Option Part) : Fields :=
  foreignKeyParameters.zipIdx.filterMap fun (name, n) =>
    (given n).map fun p => (.str name, p)

def RelationshipBuilder.call (b : RelationshipBuilder) (method : String) (c : Call) :
    Except Fault Outcome := do
  let done (b : RelationshipBuilder) : Except Fault Outcome :=
    pure (.changed (.relationship b))
  let cardinality (k : Cardinality) : Except Fault Outcome := do
    c.nothing
    done { b with cardinality := some k }
  match method with
  | "description" => do done { b with description := ← c.only "description" }
  | "entities" => do
    let given ← c.parts 2 ["local", "foreign"]
    done (b.between (orNull (given 0)) (orNull (given 1)))
  | "one_to_one" => cardinality .oneToOne
  | "one_to_many" => cardinality .oneToMany
  | "many_to_one" => cardinality .manyToOne
  | "many_to_many" => do
    let given ← c.parts 1 ["junction_table", "local_column", "foreign_column",
      "extra_columns"]
    match b.manyToMany (orNull (given 0)) (orNull (given 1)) (orNull (given 2))
        (orNull (given 3)) with
    | (b, none) => done b
    | (b, some f) => pure (.broken (.relationship b) f)
  | "foreign_key" => do
    let given ← c.parts 2 foreignKeyParameters
    let b ← b.withForeignKey (foreignKeyFields given)
    done b
  | "build" => do
    c.nothing
    pure (.result (.relationship (← b.build)))
  | _ => throw (.misuse .noPart)

/-! ## Methods of entities -/

namespace EntityBuilder

def givenColumn (name : Part) (column : Given) (note : Part) (b : EntityBuilder) :
    Except Fault EntityBuilder :=
  match column with
  | .builder (.column c) => b.built name c note
  | g => b.column name g.asPart note

def givenRelationship (r : Given) (b : EntityBuilder) : Except Fault EntityBuilder :=
  match r with
  | .builder (.relationship r) => do pure (b.relationship (.relationship (← r.build)))
  | g => .ok (b.relationship g.asPart)

/-- A method for one of the usual columns; none if it is another. -/
def usualColumn? (b : EntityBuilder) (method : String) (c : Call) :
    Option (Except Fault EntityBuilder) :=
  match method with
  | "id_field" => some do
    let given ← c.parts 0 ["kind"]
    b.idField ((given 0).getD (.str "uuid"))
  | "string_field" => some do
    let given ← c.parts 1 ["name", "max_length", "nullable", "unique", "default"]
    b.stringField (orNull (given 0)) (orNull (given 1)) (orNo (given 2)) (orNo (given 3))
      (orNull (given 4))
  | "number_field" => some do
    let given ← c.parts 1 ["name", "nullable", "default", "integer"]
    b.numberField (orNull (given 0)) (orNo (given 1)) (orNull (given 2)) (orNo (given 3))
  | "boolean_field" => some do
    let given ← c.parts 1 ["name", "default"]
    b.booleanField (orNull (given 0)) (orNull (given 1))
  | "email_field" => some do b.emailField (← c.only "name")
  | "url_field" => some do
    let given ← c.parts 1 ["name", "optional"]
    b.urlField (orNull (given 0)) (orNo (given 1))
  | "timestamps" => some do
    c.nothing
    b.timestamps
  | _ => none

/-- A method that tells something of the entity; none if it is another. -/
def detail? (b : EntityBuilder) (method : String) (c : Call) :
    Option (Except Fault EntityBuilder) :=
  match method with
  | "description" => some do pure { b with description := ← c.only "description" }
  | "version" => some do pure (b.withVersion (← c.only "version"))
  | "table_name" => some do pure { b with tableName := ← c.only "name" }
  | "table_comment" => some do pure { b with tableComment := ← c.only "comment" }
  | "primary_key" => some do pure { b with primaryKey := ← c.every }
  | "unique" => some do pure { b with uniques := b.uniques ++ [← c.every] }
  | "check" => some do
    let given ← c.parts 2 ["name", "expression"]
    b.check (orNull (given 0)) (orNull (given 1))
  | "index" => some do
    let given ← c.parts 2 ["name", "columns", "unique", "where", "index_type"]
    b.index (orNull (given 0)) (orNull (given 1)) (orNo (given 2)) (orNull (given 3))
      (orNull (given 4))
  | "constraint" => some do
    let given ← c.parts 3 ["name", "constraint_type", "definition"]
    pure (b.constraint (orNull (given 0)) (orNull (given 1)) (orNull (given 2)))
  | _ => none

def nothingGiven (g : Option Given) : Given := g.getD (.part .null)

def call (b : EntityBuilder) (method : String) (c : Call) : Except Fault Outcome := do
  let done (b : EntityBuilder) : Except Fault Outcome := pure (.changed (.entity b))
  match b.usualColumn? method c, b.detail? method c, method with
  | some result, _, _ | none, some result, _ => do
    let b ← result
    done b
  | none, none, "column" => do
    let bound ← c.bind 2 ["name", "column", "field"]
    let given (n : Nat) : Given := nothingGiven (bound[n]?.getD none)
    let b ← b.givenColumn (given 0).asPart (given 1) (given 2).asPart
    done b
  | none, none, "relationship" => do
    let bound ← c.bind 1 ["relationship"]
    let b ← b.givenRelationship (nothingGiven (bound[0]?.getD none))
    done b
  | none, none, "build_table" => do
    c.nothing
    pure (.result (.table (← b.table)))
  | none, none, "build" => do
    c.nothing
    pure (.result (.entity (← b.build)))
  | none, none, _ => throw (.misuse .noPart)

end EntityBuilder

/-! ## Builders of any sort -/

/-- The arguments of a maker of columns: the type, then its
parameters. -/
def Call.typeAndParameters (c : Call) : Except Fault (Part × List Part) :=
  match c.placed, c.named with
  | type :: rest, [] => .ok (type.asPart, rest.map Given.asPart)
  | [], [("column_type", type)] => .ok (type.asPart, [])
  | _, _ => .error (.misuse .wrongKind)

/-- A new column, entity or relationship. -/
def Builder.make (sort maker : String) (c : Call) : Except Fault Outcome := do
  match sort, maker with
  | "ColumnBuilder", "create" => do
    let (type, params) ← c.typeAndParameters
    pure (.changed (.column (← ColumnBuilder.create type params)))
  | "ColumnBuilder", "new" => do
    pure (.changed (.column (.ofType (← c.only "column_type"))))
  | "EntityBuilder", "create" => do
    let given ← c.parts 2 ["entity_id", "singular", "plural"]
    let b ← EntityBuilder.create (orNull (given 0)) (orNull (given 1)) (orNull (given 2))
    pure (.changed (.entity b))
  | "EntityBuilder", "new" => do
    let given ← c.parts 2 ["entity_id", "singular", "plural", "display", "db"]
    let b ← EntityBuilder.new (orNull (given 0)) (orNull (given 1)) (orNull (given 2))
      (orNull (given 3)) (orNull (given 4))
    pure (.changed (.entity b))
  | "RelationshipBuilder", "create" | "RelationshipBuilder", "new" => do
    pure (.changed (.relationship (.create (← c.only "name"))))
  | _, _ => throw (.misuse .wrongKind)

def Builder.call (b : Builder) (method : String) (c : Call) : Except Fault Outcome :=
  match b with
  | .column b => b.call method c
  | .entity b => b.call method c
  | .relationship b => b.call method c

/-- A method of what is given; a part has none. -/
def Given.call (g : Given) (method : String) (c : Call) : Except Fault Outcome :=
  match g with
  | .builder b => b.call method c
  | .part _ => .error (.misuse .noPart)

end Polyschema
