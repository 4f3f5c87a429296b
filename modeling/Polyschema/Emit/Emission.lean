/-
Polyschema.Emit.Emission — work that puts text together and may lose
something on the way.

* `Emitting` — what such work can do: note losses, and fail.
* `Emission` — such work with its losses in a list of its own.
* `Logged` — such work beside a log, which is handed on from step to step.

The text of every dialect is made by functions for any work of this kind.
-/
import Polyschema.Emit.Loss
import Polyschema.Noted

namespace Polyschema

/-- Work on which something may be lost. A loss is noted, and the work goes
on. -/
class Emitting (M : Type → Type) extends Monad M where
  losses : List Loss → M Unit
  ofExcept {α : Type} : Except Fault α → M α

namespace Emitting

variable {M : Type → Type} [Emitting M] {α : Type}

def note (l : Loss) : M Unit := losses [l]

def noteWhen (condition : Bool) (l : Loss) : M Unit :=
  if condition then note l else pure ()

def fail (f : Fault) : M α := ofExcept (.error f)

/-- A result that a defect of the schema may prevent. -/
def ofDefect (r : Except Defect α) : M α := ofExcept (r.mapError .defect)

end Emitting

abbrev Emission (α : Type) := Noted Loss α

@[default_instance]
instance : Emitting (Noted Loss) where
  losses ls := ⟨ls, .ok ()⟩
  ofExcept := Noted.ofExcept

namespace Emission

variable {α : Type}

@[simp] theorem losses_eq (ls : List Loss) : (Emitting.losses ls : Emission Unit) = ⟨ls, .ok ()⟩ :=
  rfl

@[simp] theorem note_eq (l : Loss) : (Emitting.note l : Emission Unit) = .note l := rfl

@[simp] theorem ofExcept_eq (r : Except Fault α) :
    (Emitting.ofExcept r : Emission α) = .ofExcept r := rfl

@[simp] theorem fail_eq (f : Fault) : (Emitting.fail f : Emission α) = .fail f := rfl

@[simp] theorem ofDefect_eq (r : Except Defect α) :
    (Emitting.ofDefect r : Emission α) = .ofDefect r := rfl

end Emission

/-! ## Beside a log -/

abbrev Log := Option (List Diagnostic)

/-- Work that is handed a log, and leaves it with what it wrote there. -/
def Logged (α : Type) := Log → Log × Except Fault α

namespace Logged

variable {α β : Type}

/-- The next piece of work, with the log that the first one left, unless
that failed. -/
def andThen (m : Logged α) (next : α → Logged β) : Logged β := fun log =>
  match m log with
  | (written, .ok a) => next a written
  | (written, .error f) => (written, .error f)

instance : Monad Logged where
  pure a := fun log => (log, .ok a)
  bind := andThen

/-- Each loss is a warning at the end of the log. -/
instance : Emitting Logged where
  losses ls := fun log => (log.map (· ++ ls.map Loss.diagnostic), .ok ())
  ofExcept r := fun log => (log, r)

end Logged

end Polyschema
