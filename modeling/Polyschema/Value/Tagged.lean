/-
Polyschema.Value.Tagged — values of any kind as plain data.

What plain data cannot hold is written as a mapping with one key, the
tag: `$float`, `$decimal`, `$date` and `$datetime` with a text, `$tuple`
with a list, `$map` with a list of entries, `$gen` for a source of
values.

* `Value.tagged` — a value with its tags.
* `Value.untagged?` — the value that a tag and its content stand for.
-/
import Polyschema.Calendar.Iso
import Polyschema.Number.Read
import Polyschema.Value.Text

namespace Polyschema

open Polyschema.Number Polyschema.Calendar

namespace Value

def tag (name : String) (content : Value) : Value := .record [(name, content)]

def isText (v : Value) : Bool := v.asString?.isSome

mutual
/-- A value with tags for what plain data cannot hold. -/
def tagged : Value → Value
  | float x => tag "$float" (str x.text)
  | decimal d => tag "$decimal" (str d.text)
  | date d => tag "$date" (str d.text)
  | timestamp t => tag "$datetime" (str t.text)
  | list items => list (taggedItems items)
  | tuple items => tag "$tuple" (list (taggedItems items))
  | dict entries =>
    let inner := taggedEntries entries
    if entries.all fun e => e.1.isText then dict inner
    else tag "$map" (list (inner.map fun (k, v) => list [k, v]))
  | generator => tag "$gen" (bool true)
  | typeRef _ shown => tag "$type" (str shown)
  | v => v

def taggedItems : List Value → List Value
  | [] => []
  | v :: rest => tagged v :: taggedItems rest

def taggedEntries : List (Value × Value) → List (Value × Value)
  | [] => []
  | (k, v) :: rest => (tagged k, tagged v) :: taggedEntries rest
end

def untagged? (name : String) (content : Value) : Option Value :=
  match name, content with
  | "$float", str s => float <$> readBinary64? s
  | "$decimal", str s => decimal <$> readDecimal? s
  | "$date", str s => date <$> Date.read? s
  | "$datetime", str s => timestamp <$> Timestamp.read? s
  | "$gen", _ => some generator
  | _, _ => none

end Value

end Polyschema
