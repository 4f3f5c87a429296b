/-
Polyschema.Value.Literal — values as literals of the emitted languages.

* `Value.sqlLiteral` — SQL.
* `Value.scriptLiteral` — TypeScript.
* `Value.attributeLiteral` — the argument of a Prisma `@default`.

A value that is no scalar goes in as its JSON text, so it may have no
literal at all.
-/
import Polyschema.Value.Json

namespace Polyschema

open Polyschema.Text

namespace Value


def sqlLiteral (v : Value) : Except Misuse String :=
  match v with
  | null => pure "NULL"
  | bool b => pure (if b then "TRUE" else "FALSE")
  | int n => pure (toString n)
  | float x => pure x.text
  | str s => pure (sqlString s)
  | _ => sqlString <$> v.json .compact

def scriptLiteral (v : Value) : Except Misuse String :=
  match v with
  | null => pure "null"
  | bool b => pure (if b then "true" else "false")
  | int n => pure (toString n)
  | float x => pure x.text
  | str s => pure (scriptString s)
  | _ => v.json .spaced

/-- The value as the argument of a default attribute; what is neither a
truth value, a number nor a text is written as a text of JSON. -/
def attributeLiteral (v : Value) : Except Misuse String :=
  match v with
  | bool b => pure (if b then "true" else "false")
  | int n => pure (toString n)
  | float x => pure x.text
  | str s => pure (jsonString s)
  | _ => jsonString <$> v.json .compact

end Value

end Polyschema
