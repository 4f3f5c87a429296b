/-
Polyschema.Emit.Default — the defaults of columns on their way into a
dialect.

* `base` — the fragment of a type, or a fallback with a loss.
* `storedDefault` — the stored form of a default, or the default as it
  is, with a loss.
* `identityMode` — the mode of an identity column.
-/
import Polyschema.Emit.Emission
import Polyschema.Kind.Codec
import Polyschema.Kind.Fragment

namespace Polyschema

namespace Emit

open Emitting

variable {M : Type → Type} [Emitting M]

/-- The fragment of a type for a column; where the type has none in the
dialect, the fallback. -/
def base (t : ColumnType) (d : Dialect) (name : String) (options : Option Variant)
    (fallback : String) : M String :=
  match t.kind.fragment? d name options with
  | some fragment => ofExcept fragment
  | none => do
    note (.fallback t.name d name fallback)
    pure fallback

/-- A default as it is stored. A default outside its type is left as it
is. -/
def storedDefault (t : ColumnType) (value : Value) (column : String) : M Value := do
  if ← ofExcept (t.accepts value) then ofExcept (t.serialize value)
  else
    note (.outOfDomain value column t.name)
    pure value

def settingValue : Setting → Value
  | .data v => v
  | .identity g => .str g.tag

/-- The expression for a default from a source of values, by the name of
the type. -/
def sqlExpression (typeName : String) (v : Variant) : Option String :=
  if typeName = "uuid" then
    match v with
    | .postgres => some "gen_random_uuid()"
    | .mysql => some "(UUID())"
    | .sqlite => none
  else if typeName = "timestamp" then some "CURRENT_TIMESTAMP"
  else if typeName = "date" then
    match v with
    | .mysql => some "(CURRENT_DATE)"
    | _ => some "CURRENT_DATE"
  else none

/-- The Drizzle call for a default from a source of values. -/
def drizzleExpression (typeName : String) : Option String :=
  if typeName = "uuid" then some ".defaultRandom()"
  else if typeName = "timestamp" ∨ typeName = "date" then some ".defaultNow()"
  else none

/-- The Prisma attribute for a default from a source of values. -/
def prismaExpression (typeName : String) : Option String :=
  if typeName = "uuid" then some "@default(uuid())"
  else if typeName = "timestamp" ∨ typeName = "date" then some "@default(now())"
  else none

/-- The expression for a default from a source of values, if the place
has one; otherwise there is a loss. -/
def expressionOr (expression : Option String) (t : ColumnType) (column : String)
    (place : DefaultPlace) : M (Option String) :=
  match expression with
  | some text => pure (some text)
  | none => do
    note (.noExpression column t.name place)
    pure none

/-- The mode of an identity column: a plain flag leaves it to the
default, any other setting must name a mode. -/
def identityMode : Setting → Except Fault Generation
  | .identity g => .ok g
  | .data (.bool _) => .ok .byDefault
  | .data v => match v.asString?.bind Generation.ofTag? with
    | some g => .ok g
    | none => .error (.misuse .badContent)

/-- The last setting of a kind of modifier in a chain. -/
def lastSetting? (kind : ModifierKind) (chain : List Modifier) : Option Setting :=
  (chain.reverse.find? (·.kind == kind)).map (·.setting)

/-- The type of a column with its flags as modifiers, for the dialects
that write the key at the column: only the column of a single-column key
is a primary key there. -/
def keyedType (name : String) (c : Column) (key : List String) : ColumnType :=
  (c.withPrimary (key == [name])).resolved

end Emit

end Polyschema
