/-
Polyschema.Kind.Make — column types made from a name and arguments.

* `Argument` — what may be given for a parameter.
* `makeType` — the type of a registered kind, found by its name or an
  alias in any casing.
* `makeCustom` — a kind of the caller's own.

Arguments are matched to parameters by place, then by name; those that
do not match make the parameters invalid.
-/
import Polyschema.Intake.Arguments
import Polyschema.Kind.Basic

namespace Polyschema

open Polyschema.Text

/-! ## Arguments -/

/-- What may be given for a parameter of a kind. -/
inductive Argument where
  | data (v : Value)
  | type (t : ColumnType)
  | function (f : ValueFunction)
  | emitters (entries : List (String × Emitter))

namespace Argument

def asValue : Argument → Value
  | data v => v
  | type t => t.asValue
  | function _ => .generator
  | emitters entries => .record (entries.map fun (tag, _) => (tag, .generator))

def truthy (a : Argument) : Bool := a.asValue.truthy

end Argument

/-! ## Parameters of registered kinds -/

/-- A length, which must be a positive whole number if it is given. -/
def lengthOf (a : Option Argument) : Except Fault (Option Nat) :=
  match a.map Argument.asValue with
  | none | some .null => .ok none
  | some (.int n) =>
    if 0 < n then .ok (some n.toNat) else .error (.defect (.badLength (.int n)))
  | some v => .error (.defect (.badLength v))

/-- A precision, which must be a positive whole number if it is given. -/
def precisionOf (a : Option Argument) : Except Fault (Option {n : Nat // 0 < n}) :=
  match a.map Argument.asValue with
  | none | some .null => .ok none
  | some (.int n) =>
    if h : 0 < n.toNat then .ok (some ⟨n.toNat, h⟩)
    else .error (.defect (.badPrecision (.int n)))
  | some v => .error (.defect (.badPrecision v))

/-- A scale, which must be a whole number and not negative if it is
given. -/
def scaleOf (a : Option Argument) : Except Fault (Option Nat) :=
  match a.map Argument.asValue with
  | none | some .null => .ok none
  | some (.int n) =>
    if 0 ≤ n then .ok (some n.toNat) else .error (.defect (.badScale (.int n)))
  | some v => .error (.defect (.badScale v))

/-- The scale of a column for which only a precision is given. -/
def defaultScale : Nat := 2

def shapeOf (precision : Option {n : Nat // 0 < n}) (scale : Option Nat) :
    Except Fault DecimalShape :=
  match precision with
  | none => .ok (.free scale)
  | some ⟨precision, positive⟩ =>
    let scale := scale.getD defaultScale
    if fits : scale ≤ precision then .ok (.fixed precision scale positive fits)
    else .error (.defect (.scaleTooLarge scale precision))

/-- The members that a value lists, if it can be gone through: a text
lists none. -/
def memberItems? : Value → Option (List Value)
  | .str _ => some []
  | v => v.items?

def membersOf (given : Value) (items : List Value) : Except Fault Members :=
  let names := items.filterMap Value.asString?
  if some_member : names ≠ [] then
    if none_empty : (∀ m ∈ names, m ≠ "") ∧ names.length = items.length then
      if distinct : names.Nodup then
        .ok ⟨names, some_member, none_empty.1, distinct⟩
      else .error (.defect (.repeatedMembers names))
    else .error (.defect (.badMembers given))
  else .error (.defect (.badMembers given))

/-! ## Kinds of the caller's own -/

def emitterDialect (typeName : Value) (tag : Value) : Except Fault Dialect :=
  match tag.asString?.bind Dialect.ofTag? with
  | some d => .ok d
  | none => .error (.defect (.unknownEmitter tag.text typeName.text))

/-- What is given to write a column in a dialect. -/
inductive Writer where
  | emitter (write : Emitter)
  | notCallable

def writersOf : Option Argument → Except Fault (List (Value × Writer))
  | none => .ok []
  | some (.emitters entries) =>
    .ok (entries.map fun (tag, write) => (.str tag, .emitter write))
  | some (.data (.dict entries)) =>
    .ok (entries.map fun (tag, v) =>
      (tag, match v with
        | .generator => .emitter Emitter.source
        | _ => .notCallable))
  | some a => if a.truthy then .error (.misuse .noPart) else .ok []

/-- A function that may be left out; what counts as false is left
out when `lenient`. -/
def functionOf (lenient : Bool) : Option Argument → Reading (Option ValueFunction)
  | none => .done none
  | some (.function f) => .done (some f)
  | some (.data .null) => .done none
  | some (.data .generator) => .done (some ValueFunction.source)
  | some a => if lenient && !a.truthy then .done none else .problem .notCallable

def kindName (v : Value) : Reading String :=
  match v with
  | .str s => if s = "" then .problem .shortText else .done s
  | _ => .problem .notText

/-- An emitter, which has to be one that can be called. -/
def writerEmitter (d : Dialect) : Writer → Reading (Dialect × Emitter)
  | .emitter write => .done (d, write)
  | .notCallable => (Reading.problem .notCallable).inField d.tag

/-- A kind of the caller's own. -/
def makeCustom (name : Argument)
    (serializer deserializer validator emitters params : Option Argument) :
    Except Fault ColumnType := do
  if !name.truthy then throw (.defect .namelessType)
  let writers ← (← writersOf emitters).mapM fun (tag, w) => do
    pure (← emitterDialect name.asValue tag, w)
  let params ← match params.map Argument.asValue with
    | none => pure []
    | some v => match v.items? with
      | some items => pure items
      | none => throw (.misuse .wrongKind)
  let reading : Reading CustomKind :=
    (fun name serializer deserializer validator emitters =>
      { name, params, serializer, deserializer, validator, emitters })
    <$> (kindName name.asValue).inField "type_name"
    <*> (functionOf true serializer).inField "serializer"
    <*> (functionOf true deserializer).inField "deserializer"
    <*> (functionOf false validator).inField "validator"
    <*> (Reading.all (writers.map fun (d, w) => writerEmitter d w)).inField "emitters"
  (fun spec => ColumnType.plain (.custom spec)) <$> reading.orFault

/-- The parameters of a kind of the caller's own. -/
def customParameters : List String := [
  "type_name", "serializer", "deserializer", "validator", "emitters", "type_params"]

/-- A kind of the caller's own with its arguments in the order of the
parameters. -/
def makeCustomBound : List (Option Argument) → Except Fault ColumnType
  | [some name, serializer, deserializer, validator, emitters, params] =>
    makeCustom name serializer deserializer validator emitters params
  | _ => .error (.misuse .wrongKind)

/-- A kind of the caller's own. Arguments that find no parameter are a
misuse. -/
def makeOwn (arguments : Arguments Argument) : Except Fault ColumnType :=
  match arguments.bind? customParameters with
  | some bound => makeCustomBound bound
  | none => .error (.misuse .wrongKind)

/-! ## Registered kinds -/

/-- A kind that a name may stand for. -/
inductive Tag where
  | string | integer | float | decimal | boolean | date | timestamp | uuid
  | json | array | enum | custom
  deriving DecidableEq, Repr

namespace Tag

/-- The registered kinds in order. -/
def all : List Tag := [
  string, integer, float, decimal, boolean, date, timestamp, uuid, json,
  array, enum, custom]

/-- The name under which a kind is registered. -/
def name : Tag → String
  | string => "string"
  | integer => "integer"
  | float => "float"
  | decimal => "decimal"
  | boolean => "boolean"
  | date => "date"
  | timestamp => "timestamp"
  | uuid => "uuid"
  | json => "json"
  | array => "array"
  | enum => "enum"
  | custom => "custom"

/-- Further names of some kinds. -/
def aliases : List (String × Tag) := [
  ("varchar", string), ("text", string), ("int", integer), ("bool", boolean),
  ("numeric", decimal), ("datetime", timestamp), ("jsonb", json)]

/-- The kind that a name stands for, in any casing and with blanks
around it. -/
def ofText? (s : String) : Option Tag :=
  let key := lower (trim s)
  match aliases.lookup key with
  | some tag => some tag
  | none => all.find? (·.name == key)

def parameters : Tag → List String
  | string => ["max_length"]
  | decimal => ["precision", "scale"]
  | array => ["element_type"]
  | enum => ["values"]
  | custom => customParameters
  | _ => []

def bare? : Tag → Option Kind
  | integer => some .integer
  | float => some .float
  | boolean => some .boolean
  | date => some .date
  | timestamp => some .timestamp
  | uuid => some .uuid
  | json => some .json
  | _ => none

/-- The fault of arguments that do not match the parameters. -/
def misfit (tag : Tag) : Fault := .defect (.badParameters tag.name)

end Tag

/-- A misuse inside a factory counts against the parameters when it is
one of kind. -/
def blameParameters (tag : Tag) {α : Type} : Except Fault α → Except Fault α
  | .error (.misuse .wrongKind) => .error tag.misfit
  | result => result

/-- The type of a kind that is named without arguments. -/
def makeNamed (name : String) : Except Fault ColumnType :=
  match Tag.ofText? name with
  | none => .error (.defect (.unknownKind name))
  | some .string => .ok (.plain (.string none))
  | some .decimal => .ok (.plain (.decimal (.free none)))
  | some tag => match tag.bare? with
    | some kind => .ok (.plain kind)
    | none => .error tag.misfit

/-- The element type of a list: a type, or the name of one. -/
def elementOf : Argument → Except Fault ColumnType
  | .type t => .ok t
  | .data (.str name) => makeNamed name
  | a => .error (.defect (.badElement a.asValue.typeName))

/-- The type of a registered kind with its arguments in the order of the
parameters. -/
def makeTag (tag : Tag) (bound : List (Option Argument)) : Except Fault ColumnType :=
  match tag, bound with
  | .string, [max] => do pure (.plain (.string (← lengthOf max)))
  | .decimal, [precision, scale] => do
    let precision ← precisionOf precision
    let scale ← scaleOf scale
    pure (.plain (.decimal (← shapeOf precision scale)))
  | .array, [some element] => do
    let t ← elementOf element
    pure (.plain (.array t.kind t.modifiers))
  | .enum, [some given] =>
    match memberItems? given.asValue with
    | some items => do pure (.plain (.enum (← membersOf given.asValue items)))
    | none => .error tag.misfit
  | .custom, bound => blameParameters tag (makeCustomBound bound)
  | tag, _ => match tag.bare? with
    | some kind => .ok (.plain kind)
    | none => .error tag.misfit

def makeType (name : Value) (arguments : Arguments Argument) : Except Fault ColumnType :=
  match Tag.ofText? name.text with
  | none => .error (.defect (.unknownKind name.text))
  | some tag => match arguments.bind? tag.parameters with
    | none => .error tag.misfit
    | some bound => makeTag tag bound

end Polyschema
