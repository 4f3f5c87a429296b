/-
Polyschema.Value.Equal — equality of values.

Numbers of different kinds are equal when their values are; a list never
equals a tuple; mappings are equal whatever the order of their entries.
-/
import Polyschema.Value.Basic

namespace Polyschema

open Polyschema.Number Polyschema.Calendar

namespace Value

/-- A whole number and a binary number with the same value. -/
def intIsFloat (n : Int) (x : Binary64) : Bool := x.toInt? == some n

def sameScalar : Value → Value → Bool
  | null, null => true
  | str a, str b => a == b
  | date a, date b => a == b
  | timestamp a, timestamp b => a.same b
  | typeRef a b, typeRef c d => a == c && b == d
  | generator, generator => true
  | float x, float y => x.same y
  | decimal d, decimal e => d.same e
  | float x, decimal d => (Decimal.ofBinary64 x).same d
  | decimal d, float x => d.same (Decimal.ofBinary64 x)
  | a, b => match a.asInt?, b.asInt? with
    | some m, some n => m == n
    | some m, none => match b with
      | float x => intIsFloat m x
      | decimal d => (Decimal.ofInt m).same d
      | _ => false
    | none, some n => match a with
      | float x => intIsFloat n x
      | decimal d => d.same (Decimal.ofInt n)
      | _ => false
    | none, none => false

mutual
def same : Value → Value → Bool
  | list a, other => match other with
    | list b => sameItems a b
    | _ => false
  | tuple a, other => match other with
    | tuple b => sameItems a b
    | _ => false
  | dict a, other => match other with
    | dict b => a.length == b.length && sameEntries a b
    | _ => false
  | a, other => sameScalar a other
termination_by structural a => a

def sameItems : List Value → List Value → Bool
  | [], others => others.isEmpty
  | a :: as, others => match others with
    | b :: bs => same a b && sameItems as bs
    | [] => false
termination_by structural as => as

/-- Whether each entry of the first mapping is one of the second. -/
def sameEntries : List (Value × Value) → List (Value × Value) → Bool
  | [], _ => true
  | (k, v) :: rest, others =>
    (match others.find? fun entry => same k entry.1 with
      | some entry => same v entry.2
      | none => false) && sameEntries rest others
termination_by structural entries => entries
end

/-- Values are compared by what they are worth: a whole number equals
the binary number and the decimal of the same worth. -/
instance : BEq Value := ⟨same⟩

theorem same_str_iff {s : String} {a : Value} : (str s).same a = true ↔ a = str s := by
  cases a with
  | str t =>
    simp only [same, sameScalar, beq_iff_eq, Value.str.injEq]
    exact eq_comm
  | _ => simp [same, sameScalar, asInt?]

theorem same_null_iff {a : Value} : null.same a = true ↔ a = null := by
  cases a <;> simp [same, sameScalar, asInt?]

theorem same_list_iff {items : List Value} {a : Value} :
    (list items).same a = true ↔ ∃ others, a = list others ∧ sameItems items others = true := by
  cases a <;> simp [same]

theorem same_dict_iff {entries : List (Value × Value)} {a : Value} :
    (dict entries).same a = true ↔ ∃ others, a = dict others ∧
      entries.length = others.length ∧ sameEntries entries others = true := by
  cases a <;> simp [same]

end Value

end Polyschema
