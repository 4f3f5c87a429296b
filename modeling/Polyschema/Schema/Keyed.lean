/-
Polyschema.Schema.Keyed — parts found by name that keep their order.

* `Keyed` — named parts, no name twice.
* `Keyed.put` — a part added at the end, or exchanged where it stands.
-/
import Polyschema.Entries

namespace Polyschema

/-- Named parts in order, no two of one name. -/
structure Keyed (α : Type) where
  entries : List (String × α)
  distinct : (entries.map Prod.fst).Nodup

namespace Keyed

variable {α β : Type}

def empty : Keyed α := ⟨[], List.nodup_nil⟩

instance : Inhabited (Keyed α) := ⟨empty⟩

def names (k : Keyed α) : List String := k.entries.map Prod.fst

def get? (k : Keyed α) (name : String) : Option α := k.entries.lookup name

def has (k : Keyed α) (name : String) : Bool := k.names.contains name

def size (k : Keyed α) : Nat := k.entries.length

/-- The parts with one more; a part of the same name is exchanged where
it stands. -/
def put (name : String) (a : α) (k : Keyed α) : Keyed α :=
  ⟨putEntry name a k.entries, by
    rw [map_fst_putEntry]
    split
    · exact k.distinct
    · next h =>
      exact List.nodup_append.2 ⟨k.distinct, by simp, by
        intro x hx y hy e
        simp only [List.mem_singleton] at hy
        subst hy
        exact h (e ▸ hx)⟩⟩

theorem names_put (name : String) (a : α) (k : Keyed α) :
    (k.put name a).names =
      if name ∈ k.names then k.names else k.names ++ [name] :=
  map_fst_putEntry name a k.entries

/-- Parts put in one after another. -/
def ofList (entries : List (String × α)) : Keyed α :=
  entries.foldl (fun k e => k.put e.1 e.2) empty

/-- Each part changed, names and order kept. -/
def mapValues (f : String → α → β) (k : Keyed α) : Keyed β :=
  ⟨k.entries.map fun e => (e.1, f e.1 e.2), by
    rw [List.map_map]
    exact k.distinct⟩

/-- Each part changed by something that may fail, names and order
kept; the first failure counts. -/
def mapEntries {ε : Type} (f : String → α → Except ε β) (k : Keyed α) :
    Except ε (Keyed β) :=
  ofList <$> k.entries.mapM fun e => do pure (e.1, ← f e.1 e.2)

end Keyed

end Polyschema
