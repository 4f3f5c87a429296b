/-
Polyschema.Value.Binary — the binary number that a value stands for.

* `Value.toBinary64` — the number that a value is, writes or is nearest
  to, or why there is none.
-/
import Polyschema.Number.Read
import Polyschema.Value.Basic

namespace Polyschema

open Polyschema.Number

/-- What is found, or the misuse that counts where nothing is. -/
def Misuse.unless {α : Type} (m : Misuse) : Option α → Except Misuse α
  | some a => .ok a
  | none => .error m

/-- The binary number that a value is, writes or is nearest to. -/
def Value.toBinary64 : Value → Except Misuse Binary64
  | float x => pure x
  | decimal d => Misuse.unless .badContent d.toBinary64?
  | str s => Misuse.unless .badContent (readBinary64? s)
  | v => match v.asInt? with
    | some n => Misuse.unless .outOfRange (Binary64.ofInt? n)
    | none => throw .wrongKind

end Polyschema
