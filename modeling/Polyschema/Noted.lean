/-
Polyschema.Noted — work that leaves notes and may fail.

* `Noted` — the notes so far with a result or a fault. The notes that
  were made before a failure are kept.
-/
import Polyschema.Fault

namespace Polyschema

/-- The notes made on the way to a result or to a fault. -/
structure Noted (ν α : Type) where
  notes : List ν
  outcome : Except Fault α

namespace Noted

variable {ν μ α β : Type}

/-- A result without notes. -/
def done (a : α) : Noted ν α := ⟨[], .ok a⟩

/-- The next piece of work, unless the first failed. -/
def andThen (m : Noted ν α) (next : α → Noted ν β) : Noted ν β :=
  match m.outcome with
  | .ok a =>
    let rest := next a
    ⟨m.notes ++ rest.notes, rest.outcome⟩
  | .error f => ⟨m.notes, .error f⟩

instance : Monad (Noted ν) where
  pure := done
  bind := andThen

def note (n : ν) : Noted ν Unit := ⟨[n], .ok ()⟩

def noteWhen (condition : Bool) (n : ν) : Noted ν Unit :=
  if condition then note n else done ()

def fail (f : Fault) : Noted ν α := ⟨[], .error f⟩

def ofExcept (e : Except Fault α) : Noted ν α := ⟨[], e⟩

/-- A result that a defect of the schema may prevent. -/
def ofDefect (r : Except Defect α) : Noted ν α := ofExcept (r.mapError .defect)

/-- The same work with its notes put differently. -/
def mapNotes (f : ν → List μ) (m : Noted ν α) : Noted μ α :=
  ⟨m.notes.flatMap f, m.outcome⟩

/-- Work on each item in turn, up to the first failure. -/
def each {m : Type → Type} [Monad m] (f : α → m β) : List α → m (List β)
  | [] => pure []
  | a :: rest => do
    let b ← f a
    pure (b :: (← each f rest))

/-- A result without notes adds none. -/
theorem done_bind (a : α) (next : α → Noted ν β) :
    ((done a : Noted ν α) >>= next) = next a := by
  show andThen (done a) next = next a
  simp [andThen, done]

end Noted

end Polyschema
