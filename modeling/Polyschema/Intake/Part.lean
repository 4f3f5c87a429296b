/-
Polyschema.Intake.Part — what may be given for a field of a model, and
how plain fields are read.

* `Part` — plain data, or a piece of a schema that is made already.
* `Fields` — named parts, as they are given for a model.
* `text`, `truth`, `whole`, `member` — readers of plain fields.

The readers are lenient where that is safe: a truth value may be a zero,
a one or a word for it, a whole number may be written as text.
-/
import Polyschema.Intake.Reading
import Polyschema.Number.Read
import Polyschema.Schema.Entity

namespace Polyschema

open Polyschema.Text Polyschema.Number

/-- What may be given for a field: plain data, a piece of a schema, or a
collection of such parts. -/
inductive Part where
  | data (v : Value)
  | type (t : ColumnType)
  | column (c : Column)
  | table (t : Table)
  | check (c : Check)
  | foreignKey (k : ForeignKey)
  | junction (j : Junction)
  | relationship (r : Relationship)
  | index (i : Index)
  | constraint (c : Constraint)
  | entityName (n : EntityName)
  | entity (e : Entity)
  | list (items : List Part)
  | tuple (items : List Part)
  | dict (entries : List (Value × Part))

/-- Named parts, in the order in which they are given. -/
abbrev Fields := List (Value × Part)

namespace Part

def str (s : String) : Part := data (.str s)

def null : Part := data .null

def entries? : Part → Option Fields
  | data (.dict entries) => some (entries.map fun (k, v) => (k, data v))
  | dict entries => some entries
  | _ => none

def sequence? : Part → Option (List Part)
  | data (.list items) | data (.tuple items) => some (items.map data)
  | list items | tuple items => some items
  | _ => none

def isNull : Part → Bool
  | data .null => true
  | _ => false

mutual
/-- A part where plain data is expected. A piece of a schema stands
there by its name and the form in which messages show it. -/
def asValue : Part → Value
  | data v => v
  | type t => t.asValue
  | column c => .typeRef c.type.name c.shown
  | table t => .typeRef t.name t.shown
  | check c => .typeRef c.name c.name
  | foreignKey k => .typeRef k.localColumn k.localColumn
  | junction j => .typeRef j.name j.name
  | relationship r => .typeRef r.name r.shown
  | index i => .typeRef i.name i.name
  | constraint c => .typeRef c.name c.name
  | entityName n => .typeRef n.singular n.singular
  | entity e => .typeRef e.id e.shown
  | list items => .list (asValues items)
  | tuple items => .tuple (asValues items)
  | dict entries => .dict (asEntries entries)

def asValues : List Part → List Value
  | [] => []
  | p :: rest => asValue p :: asValues rest

/-- Entries where plain data is expected. -/
def asEntries : List (Value × Part) → List (Value × Value)
  | [] => []
  | (k, p) :: rest => (k, asValue p) :: asEntries rest
end

end Part

/-! ## Plain fields -/

namespace Intake

def text : Part → Reading String
  | .data (.str s) => .done s
  | _ => .problem .notText

/-- A text that is not empty. -/
def nonEmpty (s : String) : Reading String :=
  if s = "" then .problem .shortText else .done s

/-- A text that is not empty. -/
def name (p : Part) : Reading String := (text p).andThen nonEmpty

def nullable {α : Type} (read : Part → Reading α) (p : Part) : Reading (Option α) :=
  if p.isNull then .done none else some <$> read p

/-- The words that stand for "no". -/
def noWords : List String := ["0", "off", "f", "false", "n", "no"]

/-- The words that stand for "yes". -/
def yesWords : List String := ["1", "on", "t", "true", "y", "yes"]

/-- The truth value of a whole number. One that does not fit into 64
bits is not even looked at. -/
def truthOfInt (n : Int) : Reading Bool :=
  if n = 0 then .done false
  else if n = 1 then .done true
  else if -Int.pow 2 63 ≤ n ∧ n < Int.pow 2 63 then .problem .badTruth
  else .problem .notTruth

def truthOfFloat (x : Binary64) : Reading Bool :=
  match x.toInt? with
  | some n => truthOfInt n
  | none => .problem .notTruth

/-- A truth value: also zero and one, and words in any casing. -/
def truth : Part → Reading Bool
  | .data (.bool b) => .done b
  | .data (.str s) =>
    let word := String.ofList (s.toList.map Char.toLower)
    if noWords.contains word then .done false
    else if yesWords.contains word then .done true
    else .problem .badTruth
  | .data (.int n) => truthOfInt n
  | .data (.float x) => truthOfFloat x
  | .data (.decimal d) => match d.toBinary64? with
    | some x => truthOfFloat x
    | none => .problem .notTruth
  | _ => .problem .notTruth

/-- The digits of a whole number before a point with nothing but zeros
after it. -/
def beforeZeros (cs : List Char) : List Char :=
  if ((cs.dropWhile (· != '.')).drop 1).all (· == '0') then cs.takeWhile (· != '.')
  else cs

def asciiDigit? (c : Char) : Option Nat :=
  if c.isDigit then some (c.toNat - 0x30) else none

/-- A whole number written as text. Zeros after a point count for
nothing. -/
def wholeText? (s : String) : Option Int := do
  let (negative, digits) := takeSign (beforeZeros (trimChars isSpace s.toList))
  let value ← wholeDigits 10 asciiDigit? digits
  pure (if negative then -Int.ofNat value else Int.ofNat value)

def wholeOfFloat (x : Binary64) : Reading Int :=
  if !x.isFinite then .problem .notFinite
  else match x.toInt? with
    | some n =>
      if -Int.pow 2 63 < n ∧ n < Int.pow 2 63 then .done n else .problem .hugeWhole
    | none => .problem .fractional

def wholeOfDecimal (d : Decimal) : Reading Int :=
  match d with
  | .finite _ _ _ => match d.truncate? with
    | some n => if (Decimal.ofInt n).same d then .done n else .problem .fractional
    | none => .problem .fractional
  | _ => .problem .notFinite

/-- A whole number: also a truth value, a binary number or decimal
without a fraction, and a text that writes one. -/
def whole : Part → Reading Int
  | .data (.int n) => .done n
  | .data (.bool b) => .done (if b then 1 else 0)
  | .data (.float x) => wholeOfFloat x
  | .data (.decimal d) => wholeOfDecimal d
  | .data (.str s) => match wholeText? s with
    | some n => .done n
    | none => .problem .badWhole
  | _ => .problem .notWhole

def member {α : Type} (ofTag? : String → Option α) : Part → Reading α
  | .data (.str s) => match ofTag? s with
    | some a => .done a
    | none => .problem .notMember
  | _ => .problem .notMember

/-! ## Collections -/

def listOf {α : Type} (read : Part → Reading α) (p : Part) : Reading (List α) :=
  match p.sequence? with
  | some items => Reading.each read 0 items
  | none => .problem .notList

/-- A list that is not empty. -/
def someListOf {α : Type} (read : Part → Reading α) (p : Part) : Reading (List α) :=
  (listOf read p).check (!·.isEmpty) .tooShort

def tupleOf {α : Type} (read : Part → Reading α) (p : Part) : Reading (List α) :=
  match p.sequence? with
  | some items => Reading.each read 0 items
  | none => .problem .notTuple

/-- A tuple that is not empty. Items with problems do not count. -/
def someTupleOf {α : Type} (read : Part → Reading α) (p : Part) : Reading (List α) :=
  match p.sequence? with
  | some items =>
    let read' := Reading.each read 0 items
    if items.any fun i => (read i).value?.isSome then read'
    else (fun items _ => items) <$> read' <*> (Reading.problem .tooShort : Reading Unit)
  | none => .problem .notTuple

def keySegment : Value → Segment
  | .str s => .field s
  | v => match v.asInt? with
    | some n => .index n
    | none => .field v.shown

def keyName (key : Value) : Reading String :=
  match key with
  | .str s => .done s
  | _ => ((Reading.problem .notText).inField "[key]").under (keySegment key)

def entry {α : Type} (read : Part → Reading α) (e : Value × Part) :
    Reading (String × α) :=
  Prod.mk <$> keyName e.1 <*> (read e.2).under (keySegment e.1)

def dictOf {α : Type} (read : Part → Reading α) (p : Part) : Reading (Keyed α) :=
  match p.entries? with
  | some entries => Keyed.ofList <$> Reading.all (entries.map (entry read))
  | none => .problem .notMapping

def someDictOf {α : Type} (read : Part → Reading α) (p : Part) : Reading (Keyed α) :=
  (dictOf read p).check (0 < ·.size) .tooShort

def anything (p : Part) : Reading Value := .done p.asValue

end Intake

/-! ## Named fields -/

namespace Fields

def get? (fields : Fields) (name : String) : Option Part :=
  (fields.find? fun e => e.1.asString? == some name).map Prod.snd

def required {α : Type} (fields : Fields) (name : String) (read : Part → Reading α) :
    Reading α :=
  match fields.get? name with
  | some p => read p
  | none => .problem .missing

/-- A field that has a value where it is not given. -/
def optional {α : Type} (fields : Fields) (name : String) (otherwise : α)
    (read : Part → Reading α) : Reading α :=
  match fields.get? name with
  | some p => read p
  | none => .done otherwise

/-- The problem of a field that the model does not have. -/
def stray (names : List String) (e : Value × Part) : Reading Unit :=
  match e.1 with
  | .str s =>
    if names.contains s then .done () else (Reading.problem .unknownField).inField s
  | key => (Reading.problem .badKey).under (Intake.keySegment key)

def closed {α : Type} (fields : Fields) (names : List String) (a : Reading α) :
    Reading α :=
  (fun a _ => a) <$> a <*> Reading.all (fields.map (stray names))

end Fields

/-- A model: made already, or read from its fields. -/
def Part.model {α : Type} (made? : Part → Option α) (ofFields : Fields → Reading α)
    (p : Part) : Reading α :=
  match made? p with
  | some a => .done a
  | none => match p.entries? with
    | some fields => ofFields fields
    | none => .problem .notModel

end Polyschema
