/-
Polyschema.Kind.Codec — values on their way into a column and out of it.

* `accepts` — whether a value lies in the domain of a kind.
* `serialize`, `deserialize` — the stored form and back.
* `ColumnType.roundTrip` — both, after a check.

A check takes what is merely unfit as "no"; other failures escape it.
-/
import Polyschema.Calendar.Iso
import Polyschema.Kind.Basic
import Polyschema.Value.Binary
import Polyschema.Value.Equal
import Polyschema.Value.Json
import Polyschema.Value.JsonReader

namespace Polyschema

open Polyschema.Number Polyschema.Calendar Polyschema.Text

/-! ## Domains -/

/-- A failed check as its answer, unless the failure is of a sort that
escapes. -/
def judged : Except Fault Bool → Except Fault Bool
  | .ok b => .ok b
  | .error f => if f.isRejection then .ok false else .error f

/-- Whether the digits of a decimal fit a shape: those after the point
its scale, those before it what the precision leaves. -/
def DecimalShape.holds (shape : DecimalShape) : Decimal → Bool
  | .finite _ coefficient exponent =>
    let after := (-exponent).toNat
    let before := (Int.ofNat (digitCount coefficient) + exponent).toNat
    shape.scale?.all (after ≤ ·) &&
      shape.precision?.all fun precision => before ≤ precision - shape.scale?.getD 0
  | _ => false

/-- Removes every occurrence of a word from a text, from left to
right. `skip` counts the characters of an occurrence still to come. -/
def withoutWord (word : List Char) (skip : Nat) : List Char → List Char
  | [] => []
  | c :: rest =>
    if 0 < skip then withoutWord word (skip - 1) rest
    else if word.isPrefixOf (c :: rest) then withoutWord word (word.length - 1) rest
    else c :: withoutWord word 0 rest

def isBrace (c : Char) : Bool := c.toNat == 0x7b || c.toNat == 0x7d

/-- The characters of a UUID without its marks, braces and hyphens. -/
def uuidDigits (s : String) : List Char :=
  let unmarked := withoutWord "uuid:".toList 0 (withoutWord "urn:".toList 0 s.toList)
  (trimChars isBrace unmarked).filter (· != '-')

/-- Whether a text is a UUID: without its marks it writes a number of
thirty-two characters to base sixteen. -/
def isUuid (s : String) : Bool :=
  let digits := uuidDigits s
  digits.length == 32 && (readHex? digits).any (0 ≤ ·)

/-- Whether a value survives being stored as JSON. -/
def isJson (v : Value) : Except Fault Bool :=
  judged <| Misuse.lift do
    let text ← v.json .canonical
    pure ((Value.ofJson? text).any fun w => w.same v)

/-- Whether a number is finite as a binary one. A whole number that is
too large for one is no answer. -/
def isFiniteNumber : Value → Except Fault Bool
  | .int n => if (Binary64.ofInt? n).isSome then .ok true else .error (.misuse .outOfRange)
  | .float x => .ok x.isFinite
  | _ => .ok false

/-- Whether all items pass a check, up to the first that does not. -/
def allPass (check : Value → Except Fault Bool) : List Value → Except Fault Bool
  | [] => .ok true
  | v :: rest => do if ← check v then allPass check rest else pure false

def Kind.accepts : Kind → Value → Except Fault Bool
  | string max, v => match v with
    | .str s => .ok (max.all (s.length ≤ ·))
    | _ => .ok false
  | integer, v => .ok v.isInt
  | float, v => isFiniteNumber v
  | decimal shape, v => match v with
    | .decimal d => .ok (shape.holds d)
    | _ => .ok false
  | boolean, v => match v with
    | .bool _ => .ok true
    | _ => .ok false
  | date, v => match v with
    | .date _ => .ok true
    | _ => .ok false
  | timestamp, v => match v with
    | .timestamp _ => .ok true
    | _ => .ok false
  | uuid, v => match v with
    | .str s => .ok (isUuid s)
    | _ => .ok false
  | json, v => isJson v
  | array element _, v => match v with
    | .list items => allPass element.accepts items
    | _ => .ok false
  | enum members, v => match v with
    | .str s => .ok (members.list.contains s)
    | _ => .ok false
  | custom spec, v => match spec.validator with
    | none => .ok true
    | some f => judged ((f v).map Value.truthy)

/-! ## The stored form -/

def isoText : Value → Except Fault Value
  | .date d => .ok (.str d.text)
  | .timestamp t => .ok (.str t.text)
  | _ => .error (.misuse .noPart)

def itemsOf (v : Value) : Except Fault (List Value) :=
  match v.items? with
  | some items => .ok items
  | none => .error (.misuse .wrongKind)

def storedJson (v : Value) : Except Fault Value :=
  Misuse.lift (.str <$> v.json .canonical)

/-- Applies a function that may be left out. -/
def convert (f : Option ValueFunction) (v : Value) : Except Fault Value :=
  match f with
  | none => .ok v
  | some f => f v

def Kind.serialize : Kind → Value → Except Fault Value
  | float, v => Misuse.lift (.float <$> v.toBinary64)
  | decimal _, v => .ok (.str v.text)
  | date, v | timestamp, v => isoText v
  | json, v => storedJson v
  | array element _, v => do
    let items ← itemsOf v
    storedJson (.list (← items.mapM element.serialize))
  | custom spec, v => convert spec.serializer v
  | string _, v | integer, v | boolean, v | uuid, v | enum _, v => .ok v

/-! ## Back from the stored form -/

def signOf? (v : Value) : Option Bool :=
  match v.asInt? with
  | some 0 => some false
  | some 1 => some true
  | _ => none

def digitsOf? : Value → Option (List Nat)
  | .tuple items | .list items =>
    items.mapM fun v => do
      let n ← v.asInt?
      if 0 ≤ n ∧ n ≤ 9 then some n.toNat else none
  | _ => none

def decimalOfParts : List Value → Option Decimal
  | [sign, digits, exponent] => do
    let negative ← signOf? sign
    let coefficient := (← digitsOf? digits).foldl (fun n d => 10 * n + d) 0
    match exponent with
    | .str "F" => pure (.infinite negative)
    | .str "n" => pure (.nan false negative coefficient)
    | .str "N" => pure (.nan true negative coefficient)
    | v => do boundedDecimal negative coefficient (← v.asInt?)
  | _ => none

def toDecimal (v : Value) : Except Fault Decimal :=
  match v with
  | .decimal d => .ok d
  | .float x => .ok (.ofBinary64 x)
  | .str s => match readDecimal? s with
    | some d => .ok d
    | none => .error (.refused (.notDecimal v))
  | .tuple items | .list items => match decimalOfParts items with
    | some d => .ok d
    | none => .error (.misuse .badContent)
  | _ => match v.asInt? with
    | some n => .ok (.ofInt n)
    | none => .error (.misuse .wrongKind)

def readStored {α : Type} (read : String → Option α) (otherwise : Misuse) :
    Value → Except Fault α
  | .str s => match read s with
    | some a => .ok a
    | none => .error (.misuse otherwise)
  | _ => .error (.misuse .wrongKind)

def Kind.deserialize : Kind → Value → Except Fault Value
  | float, v => Misuse.lift (.float <$> v.toBinary64)
  | decimal _, v => .decimal <$> toDecimal v
  | date, v => .date <$> readStored Date.read? .badContent v
  | timestamp, v => .timestamp <$> readStored Timestamp.read? .badContent v
  | json, v => readStored Value.ofJson? .notJson v
  | array element _, v => do
    let items ← itemsOf (← readStored Value.ofJson? .notJson v)
    .list <$> items.mapM element.deserialize
  | custom spec, v => convert spec.deserializer v
  | string _, v | integer, v | boolean, v | uuid, v | enum _, v => .ok v

/-! ## Column types -/

namespace ColumnType

def accepts (t : ColumnType) (v : Value) : Except Fault Bool := t.kind.accepts v

def check (t : ColumnType) (v : Value) : Except Fault Value := do
  if ← t.accepts v then pure v
  else throw (.mismatch ⟨v, t.name, Value.tupleText (t.params.map Value.shown)⟩)

def serialize (t : ColumnType) (v : Value) : Except Fault Value := t.kind.serialize v

def deserialize (t : ColumnType) (v : Value) : Except Fault Value := t.kind.deserialize v

/-- A checked value, stored and taken back. -/
def roundTrip (t : ColumnType) (v : Value) : Except Fault Value := do
  let v ← t.check v
  t.deserialize (← t.serialize v)

end ColumnType

end Polyschema
