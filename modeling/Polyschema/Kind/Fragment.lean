/-
Polyschema.Kind.Fragment — a column without its modifiers, in each
dialect.

* SQL      `<name> <type>`
* Drizzle  `<builder>('<name>', …)`
* Prisma   `<name> <type> [@db…]`
* Convex   `<name>: <validator>`

A kind of the caller's own has a fragment only where it brings an
emitter. `Kind.fragment?` gives the text; the parts from which a
registered kind makes it have functions of their own.
-/
import Polyschema.Kind.Basic
import Polyschema.Text.Cut

namespace Polyschema

open Polyschema.Text

namespace Kind

/-! ## SQL -/

def sqlMembers (members : Members) : String := commas (members.list.map sqlString)

def sqlType (v : Variant) : Kind → String
  | string none => "TEXT"
  | string (some max) => s!"VARCHAR({max})"
  | integer => "INTEGER"
  | float => match v with
    | .mysql => "DOUBLE"
    | _ => "REAL"
  | decimal (.free _) => "DECIMAL"
  | decimal (.fixed precision scale _ _) => s!"DECIMAL({precision},{scale})"
  | boolean => "BOOLEAN"
  | date => "DATE"
  | timestamp => match v with
    | .mysql => "DATETIME"
    | _ => "TIMESTAMP"
  | uuid => match v with
    | .postgres => "UUID"
    | .mysql => "CHAR(36)"
    | .sqlite => "TEXT"
  | json | array _ _ => match v with
    | .postgres => "JSONB"
    | .mysql => "JSON"
    | .sqlite => "TEXT"
  | enum members => match v with
    | .mysql => s!"ENUM({sqlMembers members})"
    | _ => "TEXT"
  | custom _ => ""

/-- What SQL says of a column after its type: the members of an
enumeration, where the variant has no type for them. -/
def sqlCheck (v : Variant) (name : String) : Kind → String
  | enum members => match v with
    | .mysql => ""
    | _ => s!" CHECK ({name} IN ({sqlMembers members}))"
  | _ => ""

/-! ## Drizzle -/

def builder : Kind → String
  | string none | enum _ => "text"
  | string (some _) => "varchar"
  | integer => "integer"
  | float => "real"
  | decimal _ => "numeric"
  | boolean => "boolean"
  | date => "date"
  | timestamp => "timestamp"
  | uuid => "uuid"
  | json | array _ _ => "jsonb"
  | custom _ => ""

/-- The second argument of a builder function, where there is one. -/
def builderOptions : Kind → List String
  | string (some max) => [s!"\x7b length: {max} \x7d"]
  | decimal (.fixed precision scale _ _) =>
    [s!"\x7b precision: {precision}, scale: {scale} \x7d"]
  | enum members =>
    [s!"\x7b enum: [{commas (members.list.map scriptString)}] \x7d"]
  | _ => []

def callText (function : String) (arguments : List String) : String :=
  s!"{function}({commas arguments})"

/-! ## Prisma -/

def scalarType : Kind → String
  | string _ | uuid | enum _ => "String"
  | integer => "Int"
  | float => "Float"
  | decimal _ => "Decimal"
  | boolean => "Boolean"
  | date | timestamp => "DateTime"
  | json | array _ _ => "Json"
  | custom _ => ""

/-- The native type attribute of a registered kind, where there is
one. -/
def nativeType : Kind → List String
  | string (some max) => [s!"@db.VarChar({max})"]
  | decimal (.fixed precision scale _ _) => [s!"@db.Decimal({precision}, {scale})"]
  | date => ["@db.Date"]
  | uuid => ["@db.Uuid"]
  | _ => []

/-! ## Convex -/

/-- The validator of a closed set of texts. -/
def literalUnion (members : List String) : String :=
  match members.map fun m => s!"v.literal({scriptString m})" with
  | [only] => only
  | literals => s!"v.union({commas literals})"

def memberText (name validator : String) : String := name ++ ": " ++ validator

/-! ## All dialects -/

/-- What a kind of the caller's own writes in a dialect. -/
def CustomKind.fragment? (spec : CustomKind) (d : Dialect) (name : String)
    (options : Option Variant) : Option (Except Fault String) :=
  (spec.emitters.lookup d).map fun write => write name options

/-- A column as a Convex member. The validator of a list is made from
the member text of its items, of which the name is cut off. -/
def member? (name : String) (options : Option Variant) :
    Kind → Option (Except Fault String)
  | string _ | date | uuid => some (.ok (memberText name "v.string()"))
  | integer | float | decimal _ | timestamp => some (.ok (memberText name "v.number()"))
  | boolean => some (.ok (memberText name "v.boolean()"))
  | json => some (.ok (memberText name "v.any()"))
  | enum members => some (.ok (memberText name (literalUnion members.list)))
  | custom spec => CustomKind.fragment? spec .convex name options
  | array element _ =>
    match member? name options element with
    | none => some (.ok (memberText name "v.array(v.any())"))
    | some inner => some (inner.map fun text =>
      memberText name ("v.array(" ++ afterFirst ": " text ++ ")"))

/-- A column of a kind in a dialect, without modifiers. -/
def fragment? (k : Kind) (d : Dialect) (name : String) (options : Option Variant) :
    Option (Except Fault String) :=
  match k with
  | custom spec => CustomKind.fragment? spec d name options
  | k => match d with
    | .sql =>
      let v := Variant.ofOptions options
      some (.ok (name ++ " " ++ k.sqlType v ++ k.sqlCheck v name))
    | .drizzle =>
      some (.ok (callText k.builder (s!"'{name}'" :: k.builderOptions)))
    | .prisma =>
      some (.ok (" ".intercalate (name :: k.scalarType :: k.nativeType)))
    | .convex => member? name options k

end Kind

end Polyschema
