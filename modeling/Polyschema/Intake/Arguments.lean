/-
Polyschema.Intake.Arguments — arguments and the parameters they are for.

* `Arguments` — arguments given by place and by name.
* `Arguments.bind?` — the argument for each parameter. Every argument
  has to find a parameter of its own.
-/

namespace Polyschema

/-- Arguments with and without names. -/
structure Arguments (α : Type) where
  placed : List α
  named : List (String × α)

namespace Arguments

variable {α : Type}

def empty : Arguments α := ⟨[], []⟩

/-- The argument for each parameter, if all arguments find a parameter
of their own. -/
def bind? (parameters : List String) (a : Arguments α) : Option (List (Option α)) :=
  let taken := parameters.take a.placed.length
  if parameters.length < a.placed.length then none
  else if a.named.all fun (name, _) => parameters.contains name && !taken.contains name then
    some (a.placed.map some ++
      (parameters.drop a.placed.length).map fun p => a.named.lookup p)
  else none

/-- The argument for each parameter, if moreover the first parameters
have theirs. -/
def bindFirst? (needed : Nat) (parameters : List String) (a : Arguments α) :
    Option (List (Option α)) :=
  (a.bind? parameters).filter fun bound => (bound.take needed).all Option.isSome

end Arguments

end Polyschema
