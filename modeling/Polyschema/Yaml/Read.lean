/-
Polyschema.Yaml.Read — the value that a YAML text writes.

* `Value.ofYaml` — reads a whole text.

Of entries with equal keys the last counts, at the place of the first.
An entry whose key is the plain scalar `<<` puts the entries of another
mapping, or of several, in front of those around it, unless they are
given there too.
-/
import Polyschema.Entries
import Polyschema.Value.Equal
import Polyschema.Yaml.Node
import Polyschema.Yaml.Plain

namespace Polyschema

namespace Yaml

/-- The entries that stand for a mapping that is to be taken over. -/
def mappingEntries (v : Value) : Except ReadFault (List (Value × Value)) :=
  match v with
  | .dict entries => .ok entries
  | _ => .error .malformed

/-- The entries of mappings that are to be taken over; the first of
several counts most, so it comes last. -/
def mergedEntries (v : Value) : Except ReadFault (List (Value × Value)) :=
  match v with
  | .list items => do pure ((← items.mapM mappingEntries).reverse.flatten)
  | v => mappingEntries v

namespace Node

/-- Whether a key asks for the entries of another mapping. -/
def isMerge : Node → Bool
  | scalar text isPlain => isPlain && text == "<<"
  | _ => false

/-- A scalar as a key. Alone among plain scalars `=` stands for itself
there. -/
def isEqualSign : Node → Bool
  | scalar text isPlain => isPlain && text == "="
  | _ => false

mutual
def value : Node → Except ReadFault Value
  | scalar text isPlain => if isPlain then Plain.value text else .ok (.str text)
  | sequence nodes => return .list (← values nodes)
  | mapping entries => do
    let (merged, own) ← entryValues entries
    pure (.dict (entriesOf (merged ++ own)))

def values : List Node → Except ReadFault (List Value)
  | [] => .ok []
  | n :: rest => return (← value n) :: (← values rest)

/-- The entries that a mapping takes over, and those of its own. -/
def entryValues : List (Node × Node) →
    Except ReadFault (List (Value × Value) × List (Value × Value))
  | [] => .ok ([], [])
  | (k, v) :: rest => do
    if isMerge k then
      let others ← mergedEntries (← value v)
      let (merged, own) ← entryValues rest
      pure (others ++ merged, own)
    else
      let key ← if isEqualSign k then .ok (.str "=") else value k
      if !key.hashable then throw .malformed
      let v ← value v
      let (merged, own) ← entryValues rest
      pure (merged, (key, v) :: own)
end

end Node

end Yaml

def Value.ofYaml (s : String) : Except ReadFault Value := do
  (← Yaml.formed (Yaml.Node.ofTokens? (← Yaml.Token.ofText s.toList))).value

end Polyschema
