/-
Polyschema.Value.Basic — the data that schemas carry: defaults, type
parameters, field notes, whole documents.

* `Value` — a tree of scalars, sequences and mappings, with two leaves
  for what is no data: a generator of values and a column type.
* `Misuse` — why a value cannot be taken for some purpose.
* `truthy`, `hashable`, `typeName` — what every value has.
-/
import Polyschema.Number.Decimal
import Polyschema.Calendar.Timestamp

namespace Polyschema

open Polyschema.Number Polyschema.Calendar

/-- A piece of data. Mappings keep the order of their entries and may
have keys of any kind. -/
inductive Value where
  | null
  | bool (b : Bool)
  | int (n : Int)
  | float (x : Binary64)
  | str (s : String)
  | decimal (d : Decimal)
  | date (d : Date)
  | timestamp (t : Timestamp)
  | list (items : List Value)
  | tuple (items : List Value)
  | dict (entries : List (Value × Value))
  /-- A source of values that the database is to replace by an
  expression; it is never asked for one. -/
  | generator
  /-- A column type standing where data is expected, with its name and
  the form in which messages show it. -/
  | typeRef (name shown : String)
  deriving Inhabited

/-- Why a value cannot be taken for a purpose. -/
inductive Misuse where
  /-- The purpose is not defined for this kind of value. -/
  | wrongKind
  /-- The kind is right, but not this value. -/
  | badContent
  /-- A number is beyond what the target can hold. -/
  | outOfRange
  /-- The value lacks a part that is asked of it. -/
  | noPart
  /-- A key is not there. -/
  | noKey
  /-- Arithmetic met a number that is none. -/
  | signaling
  /-- The text is not JSON. -/
  | notJson
  deriving DecidableEq, Repr

/-- Whether a check that meets the misuse takes it as a plain "no". -/
def Misuse.isRejection : Misuse → Bool
  | wrongKind | badContent | notJson => true
  | outOfRange | noPart | noKey | signaling => false

namespace Value

def ofOption {α : Type} (inject : α → Value) : Option α → Value
  | none => null
  | some a => inject a

def record (entries : List (String × Value)) : Value :=
  dict (entries.map fun (key, value) => (str key, value))

def strings (items : List String) : Value := list (items.map str)

def asString? : Value → Option String
  | str s => some s
  | _ => none

def isNull : Value → Bool
  | null => true
  | _ => false

/-- Whether a value counts as true: empty sequences and texts, zeros and
null do not. -/
def truthy : Value → Bool
  | null => false
  | bool b => b
  | int n => n != 0
  | float x => !x.isZero
  | str s => s != ""
  | decimal d => !d.isZero
  | date _ | timestamp _ | generator | typeRef _ _ => true
  | list items | tuple items => !items.isEmpty
  | dict entries => !entries.isEmpty

/-- The name of the kind of a value, as messages give it. -/
def typeName : Value → String
  | null => "NoneType"
  | bool _ => "bool"
  | int _ => "int"
  | float _ => "float"
  | str _ => "str"
  | decimal _ => "Decimal"
  | date _ => "date"
  | timestamp _ => "datetime"
  | list _ => "list"
  | tuple _ => "tuple"
  | dict _ => "dict"
  | generator => "function"
  | typeRef _ _ => "ColumnType"

mutual
/-- Whether a value may be a key of a mapping: lists and mappings may
not, nor anything that holds one. -/
def hashable : Value → Bool
  | list _ | dict _ | typeRef _ _ => false
  | decimal (.nan signaling _ _) => !signaling
  | tuple items => allHashable items
  | _ => true

/-- Whether all the values may be keys. -/
def allHashable : List Value → Bool
  | [] => true
  | v :: rest => hashable v && allHashable rest
end

/-- The whole number that a value is: also of a truth value. -/
def asInt? : Value → Option Int
  | int n => some n
  | bool b => some (if b then 1 else 0)
  | _ => none

/-- Whether the value is a whole number and not a truth value. -/
def isInt : Value → Bool
  | int _ => true
  | _ => false

/-- How many items, entries or characters a value has. -/
def length? : Value → Option Nat
  | str s => some s.length
  | list items | tuple items => some items.length
  | dict entries => some entries.length
  | _ => none

/-- The items met in going through a value: the keys of a mapping, the
characters of a text, the named parts of a column type. -/
def items? : Value → Option (List Value)
  | str s => some (s.toList.map fun c => str c.toString)
  | list items | tuple items => some items
  | dict entries => some (entries.map Prod.fst)
  | typeRef name _ => some [tuple [str "type_name", str name]]
  | _ => none

/-- The value stored under a text key. -/
def field? (key : String) : Value → Option Value
  | dict entries =>
    (entries.find? fun entry => entry.1.asString? == some key).map Prod.snd
  | _ => none

end Value

end Polyschema
