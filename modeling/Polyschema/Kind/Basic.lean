/-
Polyschema.Kind.Basic — column types.

* `Kind` — what a column holds: a registered kind with its parameters,
  or a kind of the caller's own.
* `Modifier` — what is layered on a kind: nullability, a default, ….
* `ColumnType` — a kind with its modifiers, in order of application.

A column type is a plain value that many columns share; nothing changes
it in place.
-/
import Polyschema.Dialect
import Polyschema.Fault

namespace Polyschema

open Polyschema.Text

/-! ## Modifiers -/

/-- When the database makes the values of an identity column. -/
inductive Generation where
  | always
  | byDefault
  deriving DecidableEq, Repr, Inhabited

namespace Generation

def tag : Generation → String
  | always => "always"
  | byDefault => "by-default"

def ofTag? (s : String) : Option Generation := [always, byDefault].find? (·.tag == s)

/-- A name stands for the mode it was written for. -/
theorem ofTag?_tag (g : Generation) : ofTag? g.tag = some g := by
  cases g <;> decide

def shown : Generation → String
  | always => "<GeneratedKind.ALWAYS: 'always'>"
  | byDefault => "<GeneratedKind.BY_DEFAULT: 'by-default'>"

end Generation

/-- What a modifier is about, in the conventional order. -/
inductive ModifierKind where
  | nullable
  | unique
  | primaryKey
  | default
  | autoIncrement
  deriving DecidableEq, Repr, Inhabited

namespace ModifierKind

def all : List ModifierKind := [nullable, unique, primaryKey, default, autoIncrement]

def tag : ModifierKind → String
  | nullable => "nullable"
  | unique => "unique"
  | primaryKey => "primary_key"
  | default => "default"
  | autoIncrement => "auto_increment"

def ofTag? (s : String) : Option ModifierKind := all.find? (·.tag == s)

/-- A name stands for the kind it was written for. -/
theorem ofTag?_tag (k : ModifierKind) : ofTag? k.tag = some k := by
  cases k <;> decide

end ModifierKind

/-- What a modifier is set to. -/
inductive Setting where
  | data (v : Value)
  | identity (g : Generation)

namespace Setting

def truthy : Setting → Bool
  | data v => v.truthy
  | identity _ => true

def shown : Setting → String
  | data v => v.shown
  | identity g => g.shown

def flag (b : Bool) : Setting := data (.bool b)

end Setting

/-- One layer on a kind. -/
structure Modifier where
  kind : ModifierKind
  setting : Setting

def Modifier.shown (m : Modifier) : String :=
  s!"<ColumnModifier {m.kind.tag}={m.setting.shown}>"

/-! ## Kinds -/

/-- Which decimals a column holds. Where the precision is fixed the
scale is at most the precision. -/
inductive DecimalShape where
  /-- Any number of digits; perhaps a bound on those after the point. -/
  | free (scale : Option Nat)
  | fixed (precision scale : Nat) (positive : 0 < precision) (fits : scale ≤ precision)

/-- The members of an enumeration: at least one, none empty, no two
equal. -/
structure Members where
  list : List String
  some_member : list ≠ []
  none_empty : ∀ m ∈ list, m ≠ ""
  distinct : list.Nodup

/-- A function on values that a caller brings. It may fail with any fault,
also with one that the schema raises itself. -/
abbrev ValueFunction := Value → Except Fault Value

/-- How a caller writes a column of a name for a variant. -/
abbrev Emitter := String → Option Variant → Except Fault String

/-- A source of values given for a function on values: it takes none. -/
def ValueFunction.source : ValueFunction := fun _ => .error (.misuse .wrongKind)

def Emitter.source : Emitter := fun _ _ => .error (.misuse .wrongKind)

/-- A kind of the caller's own. Where a function is left out values stay
as they are, and every value is accepted. -/
structure CustomKind where
  name : String
  params : List Value
  serializer : Option ValueFunction
  deserializer : Option ValueFunction
  validator : Option ValueFunction
  emitters : List (Dialect × Emitter)

/-- What a column holds. -/
inductive Kind where
  /-- Text, perhaps of a bounded length. -/
  | string (max : Option Nat)
  | integer
  | float
  | decimal (shape : DecimalShape)
  | boolean
  | date
  | timestamp
  | uuid
  | json
  /-- Lists whose items are of one type. -/
  | array (element : Kind) (modifiers : List Modifier)
  | enum (members : Members)
  | custom (spec : CustomKind)

/-- A kind with its modifiers, in order of application. -/
structure ColumnType where
  kind : Kind
  modifiers : List Modifier

/-! ## Names and parameters -/

def DecimalShape.precision? : DecimalShape → Option Nat
  | free _ => none
  | fixed precision _ _ _ => some precision

def DecimalShape.scale? : DecimalShape → Option Nat
  | free scale => scale
  | fixed _ scale _ _ => some scale

namespace Kind

def name : Kind → String
  | string _ => "string"
  | integer => "integer"
  | float => "float"
  | decimal _ => "decimal"
  | boolean => "boolean"
  | date => "date"
  | timestamp => "timestamp"
  | uuid => "uuid"
  | json => "json"
  | array _ _ => "array"
  | enum _ => "enum"
  | custom spec => spec.name

/-- A parameter that may be left out. -/
def optionalParam (n : Option Nat) : Value := Value.ofOption (fun n => .int n) n

end Kind

/-- How a parameter is listed with the name of its type: a column type
by its name, other values as messages show them, null not at all. -/
def paramLabel? : Value → Option String
  | .null => none
  | .typeRef name _ => some name
  | v => some v.shown

namespace ColumnType

def name (t : ColumnType) : String := t.kind.name

/-- The parameters of a kind in the form in which messages list them. -/
def paramLabels : Kind → List String
  | .string max => [Kind.optionalParam max].filterMap paramLabel?
  | .decimal shape =>
    [shape.precision?, shape.scale?].map Kind.optionalParam |>.filterMap paramLabel?
  | .array element _ => [element.name]
  | .enum members => members.list.map shownString
  | .custom spec => spec.params.filterMap paramLabel?
  | _ => []

def shown (t : ColumnType) : String :=
  let mods := String.join (t.modifiers.map fun m => " +" ++ m.kind.tag)
  s!"<ColumnType {t.name}({commas (paramLabels t.kind)}){mods}>"

/-- A column type standing where data is expected. -/
def asValue (t : ColumnType) : Value := .typeRef t.name t.shown

def params (t : ColumnType) : List Value :=
  match t.kind with
  | .string max => [Kind.optionalParam max]
  | .decimal shape => [shape.precision?, shape.scale?].map Kind.optionalParam
  | .array element modifiers => [asValue ⟨element, modifiers⟩]
  | .enum members => members.list.map .str
  | .custom spec => spec.params
  | _ => []

def base (t : ColumnType) : ColumnType := { t with modifiers := [] }

def modifier? (t : ColumnType) (kind : ModifierKind) : Option Modifier :=
  t.modifiers.find? (·.kind == kind)

def plain (kind : Kind) : ColumnType := ⟨kind, []⟩

end ColumnType

/-! ## Adding modifiers -/

/-- A chain with a modifier set: the first one of its kind is replaced
where it stands, and a kind that is new comes last. -/
def setModifier (m : Modifier) : List Modifier → List Modifier
  | [] => [m]
  | first :: rest =>
    if first.kind = m.kind then m :: rest else first :: setModifier m rest

namespace ColumnType

def withModifier (t : ColumnType) (kind : ModifierKind) (setting : Setting) :
    ColumnType :=
  { t with modifiers := setModifier ⟨kind, setting⟩ t.modifiers }

def withNullable (t : ColumnType) (nullable : Bool) : ColumnType :=
  t.withModifier .nullable (.flag nullable)

def withUnique (t : ColumnType) (unique : Bool) : ColumnType :=
  t.withModifier .unique (.flag unique)

def withPrimaryKey (t : ColumnType) (primary : Bool) : ColumnType :=
  t.withModifier .primaryKey (.flag primary)

def withDefault (t : ColumnType) (value : Value) : ColumnType :=
  t.withModifier .default (.data value)

def withAutoIncrement (t : ColumnType) (mode : Generation) : ColumnType :=
  t.withModifier .autoIncrement (.identity mode)

def modifierKinds (t : ColumnType) : List ModifierKind := t.modifiers.map (·.kind)

end ColumnType

end Polyschema
