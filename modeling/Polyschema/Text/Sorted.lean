/-
Polyschema.Text.Sorted — texts in ascending order.
-/

namespace Polyschema.Text

/-- Texts in ascending order of their code points. -/
def sorted (names : List String) : List String :=
  names.mergeSort fun a b => decide (a ≤ b)

/-- Texts in ascending order, each once. -/
def sortedSet (names : List String) : List String := (sorted names).eraseDups

/-- Each text once, at the place where it comes first, with how often it
comes. -/
def counted (names : List String) : List (String × Nat) :=
  names.eraseDups.map fun n => (n, names.count n)

end Polyschema.Text
