/-
Polyschema.Builder.Script — scripts of calls to builders.

* `Script` — the builders made so far, and registers that hold them or
  what they have built. A register that holds a builder sees every later
  change of it.
* `Script.step` — one call, and what follows from it.
-/
import Polyschema.Builder.Call

namespace Polyschema

/-- What a register holds: something built, or a builder by its
number. -/
inductive Held where
  | part (p : Part)
  | builder (number : Nat)

/-- The state of a script. -/
structure Script where
  builders : List Builder
  registers : List (String × Held)

/-- A call in a script: on a register or, if there is none of that name,
on a sort of builder. -/
structure ScriptCall where
  on : String
  method : String
  arguments : Call
  /-- The register for what follows. -/
  result : Option String

namespace Script

/-- A script before its first call. -/
def blank : Script := ⟨[], []⟩

def given (s : Script) : Held → Given
  | .part p => .part p
  | .builder n => match s.builders[n]? with
    | some b => .builder b
    | none => .part .null

def lookup (s : Script) (name : String) : Option Given :=
  (s.registers.lookup name).map s.given

def hold (s : Script) (name : Option String) (h : Held) : Script :=
  match name with
  | some n => { s with registers := (n, h) :: s.registers.filter (·.1 != n) }
  | none => s

/-- The script with a builder changed, or added if it is new. -/
def update (s : Script) (held : Option Held) (b : Builder) : Script × Held :=
  match held with
  | some (.builder n) => ({ s with builders := s.builders.set n b }, .builder n)
  | _ => ({ s with builders := s.builders ++ [b] }, .builder s.builders.length)

def outcome (s : Script) (c : ScriptCall) : Except Fault Outcome :=
  match s.lookup c.on with
  | some g => g.call c.method c.arguments
  | none => Builder.make c.on c.method c.arguments

def step (s : Script) (c : ScriptCall) : Script × Except Fault Outcome :=
  let held := s.registers.lookup c.on
  match s.outcome c with
  | .error f => (s, .error f)
  | .ok (.broken b f) => ((s.update held b).1, .error f)
  | .ok (.changed b) =>
    let (s, h) := s.update held b
    (s.hold c.result h, .ok (.changed b))
  | .ok (.result p) => (s.hold c.result (.part p), .ok (.result p))

/-- Whether a script cannot go on after a failure: the register for the
result was never set. -/
def stops (s : Script) (result : Option String) : Bool :=
  result.any fun name => (s.registers.lookup name).isNone

end Script

end Polyschema
