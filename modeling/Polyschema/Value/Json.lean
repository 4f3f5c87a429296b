/-
Polyschema.Value.Json — values written as JSON text in ASCII.

* `JsonStyle` — what separates items, whether keys are sorted, whether
  numbers that are not finite may be written.
* `Value.json` — the text, or why a value has none.

Keys that are numbers, truth values or null are written as texts. Where
keys are sorted, that is done before, so keys of both sorts do not go
together.
-/
import Polyschema.Value.Sort
import Polyschema.Value.Text

namespace Polyschema

open Polyschema.Text Polyschema.Number

/-- How JSON text is laid out. -/
structure JsonStyle where
  comma : String
  colon : String
  sorted : Bool
  finiteOnly : Bool

namespace JsonStyle

/-- Keys sorted and nothing blank. -/
def compact : JsonStyle := ⟨",", ":", true, false⟩

/-- Keys sorted, nothing blank, and only finite numbers: the form in
which documents are stored. -/
def canonical : JsonStyle := ⟨",", ":", true, true⟩

/-- Keys sorted, with blanks between items. -/
def spaced : JsonStyle := ⟨", ", ": ", true, false⟩

/-- Entries in their own order, nothing blank. -/
def verbatim : JsonStyle := ⟨",", ":", false, false⟩

end JsonStyle

namespace Value

/-! ## Keys -/

def floatJson (finiteOnly : Bool) : Binary64 → Except Misuse String
  | .nan => if finiteOnly then throw .badContent else pure "NaN"
  | .infinite negative =>
    if finiteOnly then throw .badContent
    else pure (if negative then "-Infinity" else "Infinity")
  | x => pure x.text

def keyText (finiteOnly : Bool) : Value → Except Misuse String
  | str s => pure s
  | null => pure "null"
  | bool b => pure (if b then "true" else "false")
  | int n => pure (toString n)
  | float x => floatJson finiteOnly x
  | _ => throw .wrongKind

def sortEntries {α : Type} (entries : List (Value × α)) :
    Except Misuse (List (Value × α)) :=
  sortBy (fun a b => keyBefore a.1 b.1) entries

/-! ## Values -/

/-- Written entries as an object. The keys are judged in their final
order, and what is wrong with a key counts before what is wrong with its
value. -/
def objectJson (style : JsonStyle)
    (entries : List (Value × Except Misuse String)) : Except Misuse String := do
  let ordered ← if style.sorted then sortEntries entries else pure entries
  let members ← ordered.mapM fun (key, written) => do
    let name ← keyText style.finiteOnly key
    pure (jsonString name ++ style.colon ++ (← written))
  pure ("\x7b" ++ style.comma.intercalate members ++ "\x7d")

mutual
def json (style : JsonStyle) : Value → Except Misuse String
  | null => pure "null"
  | bool b => pure (if b then "true" else "false")
  | int n => pure (toString n)
  | float x => floatJson style.finiteOnly x
  | str s => pure (jsonString s)
  | list items => do
    pure ("[" ++ style.comma.intercalate (← jsonItems style items) ++ "]")
  | tuple items => do
    pure ("[" ++ style.comma.intercalate (← jsonItems style items) ++ "]")
  | dict entries => objectJson style (jsonEntries style entries)
  | decimal _ | date _ | timestamp _ | generator | typeRef _ _ => throw .wrongKind
termination_by structural v => v

/-- The items as JSON text, up to the first that has none. -/
def jsonItems (style : JsonStyle) : List Value → Except Misuse (List String)
  | [] => pure []
  | v :: rest => do
    let first ← json style v
    pure (first :: (← jsonItems style rest))
termination_by structural items => items

def jsonEntries (style : JsonStyle) :
    List (Value × Value) → List (Value × Except Misuse String)
  | [] => []
  | (k, v) :: rest => (k, json style v) :: jsonEntries style rest
termination_by structural entries => entries
end

end Value

end Polyschema
