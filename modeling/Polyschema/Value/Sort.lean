/-
Polyschema.Value.Sort — keys put in order by comparing them.

* `Value.keyBefore` — whether a key comes before another one, or why the two
  cannot be compared.
* `sortBy` — items put in order by a comparison that may fail.

The order in which keys are compared tells which comparison fails first, and
where keys that are no numbers end up. So the comparisons are made as a sort
makes them that takes the run at the front of a list and puts each further
item in by halving.
-/
import Polyschema.Value.Equal

namespace Polyschema

open Polyschema.Number Polyschema.Calendar

/-! ## Sorting -/

section

variable {α ε : Type} (before : α → α → Except ε Bool)

/-- How a run goes on after its last item, with what follows it. In a run
that falls each item comes before the last one, in another none does. -/
def runAfter (falls : Bool) (last : α) : List α → Except ε (List α × List α)
  | [] => pure ([], [])
  | x :: rest => do
    if (← before x last) == falls then
      let (run, others) ← runAfter falls x rest
      pure (x :: run, others)
    else pure ([], x :: rest)

/-- The run at the front of a list in ascending order, with what follows
it. -/
def firstRun : List α → Except ε (List α × List α)
  | x :: y :: rest => do
    let falls ← before y x
    let (run, others) ← runAfter before falls y rest
    let run := x :: y :: run
    pure (if falls then run.reverse else run, others)
  | short => pure (short, [])

/-- Ordered items with one more, which is compared with the one in the
middle. The fuel bounds their number. -/
def insertBy (x : α) : Nat → List α → Except ε (List α)
  | 0, items => pure (x :: items)
  | fuel + 1, items => do
    let half := items.take (items.length / 2)
    match items.drop (items.length / 2) with
    | [] => pure (x :: items)
    | middle :: others =>
      if ← before x middle then pure ((← insertBy x fuel half) ++ middle :: others)
      else pure (half ++ middle :: (← insertBy x fuel others))

/-- Ordered items with further ones, each put in in turn. -/
def insertAll : List α → List α → Except ε (List α)
  | sorted, [] => pure sorted
  | sorted, x :: rest => do insertAll (← insertBy before x sorted.length sorted) rest

def sortBy (items : List α) : Except ε (List α) := do
  let (run, others) ← firstRun before items
  insertAll before run others

end

/-! ## Comparing -/

namespace Value

/-- The exact value of a number or a truth value. -/
def asDecimal? : Value → Option Decimal
  | float x => some (.ofBinary64 x)
  | decimal d => some d
  | v => v.asInt?.map .ofInt

def isDecimal : Value → Bool
  | decimal _ => true
  | _ => false

/-- Whether a key is of a kind of numbers and yet no number. -/
def isNan : Value → Bool
  | float .nan | decimal (.nan _ _ _) => true
  | _ => false

/-- Whether a moment comes before another one. They have to have an offset
both, or none. -/
def momentBefore (s t : Timestamp) : Except Misuse Bool :=
  match s.offset, t.offset with
  | none, none => pure (s.localTime < t.localTime)
  | some x, some y =>
    pure (Int.ofNat s.localTime - x.microseconds < Int.ofNat t.localTime - y.microseconds)
  | _, _ => throw .wrongKind

/-- Whether a key that is no tuple comes before another one: they have to be
two texts, two numbers, two dates or two moments. Where a decimal is
compared, what is no number breaks the comparison. -/
def scalarBefore (a b : Value) : Except Misuse Bool :=
  match a.asDecimal?, b.asDecimal? with
  | some x, some y =>
    if (isDecimal a || isDecimal b) && (isNan a || isNan b) then throw .signaling
    else pure (x.below y)
  | _, _ => match a, b with
    | str s, str t => pure (s < t)
    | date d, date e => pure (d.ordinal < e.ordinal)
    | timestamp s, timestamp t => momentBefore s t
    | _, _ => throw .wrongKind

mutual
/-- Whether a key comes before another one. A tuple is compared with a
tuple. -/
def keyBefore : Value → Value → Except Misuse Bool
  | tuple as, other => match other with
    | tuple bs => itemsBefore as bs
    | _ => throw .wrongKind
  | a, b => scalarBefore a b
termination_by structural a => a

/-- Whether a tuple comes before another one: only the first items that
differ are compared. -/
def itemsBefore : List Value → List Value → Except Misuse Bool
  | [], others => pure !others.isEmpty
  | a :: as, others => match others with
    | [] => pure false
    | b :: bs => if same a b then itemsBefore as bs else keyBefore a b
termination_by structural as => as
end

end Value

end Polyschema
