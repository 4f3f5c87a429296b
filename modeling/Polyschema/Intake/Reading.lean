/-
Polyschema.Intake.Reading — taking raw data in, all problems at once.

* `Problem` — what is wrong with a field, and where it stands.
* `Reading` — something taken in, or all the problems met on the way.

Readings are put together side by side: a problem in one field does not
hide those in the fields after it.
-/

namespace Polyschema

/-- A step from a whole to one of its parts. -/
inductive Segment where
  | field (name : String)
  | index (place : Int)
  deriving DecidableEq, Repr

/-- What is wrong with one piece of raw data. -/
inductive ProblemKind where
  | missing
  | unknownField
  | notText
  | shortText
  | notTruth
  | badTruth
  | notWhole
  | badWhole
  | hugeWhole
  | fractional
  | notFinite
  | notList
  | notTuple
  | notMapping
  | notModel
  | notInstance
  | notCallable
  | notMember
  | tooShort
  | badKey
  /-- A rule of the model is broken, in the words of the rule. -/
  | rule (message : String)
  /-- The model cannot be changed once it is made. -/
  | frozen
  /-- The model has no such field to change. -/
  | noField
  deriving DecidableEq, Repr

def ProblemKind.name : ProblemKind → String
  | missing => "missing"
  | unknownField => "extra_forbidden"
  | notText => "string_type"
  | shortText => "string_too_short"
  | notTruth => "bool_type"
  | badTruth => "bool_parsing"
  | notWhole => "int_type"
  | badWhole => "int_parsing"
  | hugeWhole => "int_parsing_size"
  | fractional => "int_from_float"
  | notFinite => "finite_number"
  | notList => "list_type"
  | notTuple => "tuple_type"
  | notMapping => "dict_type"
  | notModel => "model_type"
  | notInstance => "is_instance_of"
  | notCallable => "callable_type"
  | notMember => "enum"
  | tooShort => "too_short"
  | badKey => "invalid_key"
  | rule _ => "value_error"
  | frozen => "frozen_instance"
  | noField => "no_such_attribute"

/-- A problem and the way to it from the whole. -/
structure Problem where
  kind : ProblemKind
  path : List Segment
  deriving DecidableEq, Repr

/-- The problem seen from one step further out. -/
def Problem.under (step : Segment) (p : Problem) : Problem :=
  ⟨p.kind, step :: p.path⟩

/-- Something taken in, or the problems met, in order. -/
inductive Reading (α : Type) where
  | done (value : α)
  | failed (problems : List Problem)

namespace Reading

variable {α β : Type}

/-- A single problem right here. -/
def problem (kind : ProblemKind) : Reading α := failed [⟨kind, []⟩]

/-- The reading of a function and that of its argument: the problems of
both count. -/
def apply (f : Reading (α → β)) (a : Reading α) : Reading β :=
  match f, a with
  | done f, done a => done (f a)
  | done _, failed ps => failed ps
  | failed ps, done _ => failed ps
  | failed ps, failed qs => failed (ps ++ qs)

instance : Applicative Reading where
  pure := done
  seq f a := apply f (a ())

/-- A second reading that needs the first. -/
def andThen (a : Reading α) (next : α → Reading β) : Reading β :=
  match a with
  | done a => next a
  | failed ps => failed ps

/-- The reading of a part, its problems placed under the part. -/
def under (step : Segment) : Reading α → Reading α
  | done a => done a
  | failed ps => failed (ps.map (Problem.under step))

def inField (name : String) (a : Reading α) : Reading α := a.under (.field name)

/-- Demands a rule of what was taken in. -/
def check (holds : α → Bool) (kind : ProblemKind) (a : Reading α) : Reading α :=
  a.andThen fun a => if holds a then done a else problem kind

def problems : Reading α → List Problem
  | done _ => []
  | failed ps => ps

/-- What was taken in, if nothing was wrong. -/
def value? : Reading α → Option α
  | done a => some a
  | failed _ => none

def each (read : α → Reading β) (place : Nat) : List α → Reading (List β)
  | [] => done []
  | a :: rest => List.cons <$> (read a).under (.index place) <*> each read (place + 1) rest

/-- Readings one after another, the problems of all. -/
def all : List (Reading α) → Reading (List α)
  | [] => done []
  | a :: rest => List.cons <$> a <*> all rest

end Reading

end Polyschema
