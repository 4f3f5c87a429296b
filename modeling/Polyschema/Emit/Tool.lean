/-
Polyschema.Emit.Tool — the emitters and their text functions, called with
whatever is given.

* `emitTable`, `emitRelationship` — the text of a table or a relationship,
  beside a log if one is given.
* `Tool` — the text functions.
* `Tool.apply` — the text that a function makes of a value, or why the
  value cannot be taken.

Naming functions make nothing of what counts as false, and take only
what could be a key.
-/
import Polyschema.Emit.Relationship
import Polyschema.Emit.Schema
import Polyschema.Intake.Entity

namespace Polyschema.Emit

open Polyschema.Text

/-- A table in the dialect that a value names, beside a log. -/
def emitTable (t : Table) (dialect : Value) (options : Option Variant) : Logged String := do
  let d ← Emitting.ofExcept (Dialect.named dialect)
  tableText t d options

/-- The statements for a relationship as text, beside a log. -/
def emitRelationship (r : Relationship) (options : Option Variant) (context : Option Table) :
    Logged String := do
  pure (← relationship r options context).text

/-- A function on texts or values. -/
inductive Tool where
  | pascal
  | camel
  | plural
  | identifier
  | reserved
  | sqlString
  | scriptString
  | sqlLiteral
  | scriptLiteral
  | attributeLiteral
  | listLiteral
  | importBlock
  | countLines
  deriving DecidableEq, Repr

namespace Tool

def text (otherwise : Misuse) : Value → Except Misuse String
  | .str s => .ok s
  | _ => .error otherwise

/-- A name made of a text. What counts as false makes an empty one. -/
def named (otherwise : Misuse) (make : String → String) (v : Value) :
    Except Misuse Value := do
  if !v.hashable then throw .wrongKind
  if !v.truthy then pure (.str "") else (.str ∘ make) <$> text otherwise v

/-- A text with marks of its own replaced. Days and moments have parts
that can be replaced, but not by texts. -/
def quoted (quote : String → String) (v : Value) : Except Misuse String :=
  match v with
  | .str s => .ok (quote s)
  | .date _ | .timestamp _ => .error .wrongKind
  | _ => .error .noPart

def quotedItems (v : Value) : Except Misuse Value :=
  match v.items? with
  | some items => do
    let quotedTexts ← items.mapM (quoted Text.scriptString)
    pure (.str ("[" ++ commas quotedTexts ++ "]"))
  | none => .error .wrongKind

def listedNames (v : Value) : Except Misuse (List String) :=
  match v.items? with
  | some items => items.mapM (text .wrongKind)
  | none => .error .wrongKind

def moduleNames (e : Value × Value) : Except Misuse (String × List String) := do
  pure (← text .wrongKind e.1, ← listedNames e.2)

/-- The import lines for a mapping from modules to names. -/
def imports (v : Value) : Except Misuse Value :=
  match v with
  | .dict entries => do pure (.str (Emit.importBlock (← entries.mapM moduleNames)))
  | v => match v.items? with
    | some [] => .ok (.str "")
    | _ => .error .wrongKind

def lineCount (v : Value) : Except Misuse Value :=
  if !v.truthy then .ok (.int 0)
  else (fun s => .int (Text.countLines s)) <$> text .noPart v

def apply : Tool → Value → Except Misuse Value
  | pascal, v => named .wrongKind Text.pascal v
  | camel, v => named .wrongKind Text.camel v
  | plural, v => named .noPart Text.plural v
  | identifier, v => (fun s => .bool (isIdentifier s)) <$> text .wrongKind v
  | reserved, v => (fun s => .bool (isReserved s)) <$> text .noPart v
  | sqlString, v => .str <$> quoted Text.sqlString v
  | scriptString, v => .str <$> quoted Text.scriptString v
  | sqlLiteral, v => .str <$> v.sqlLiteral
  | scriptLiteral, v => .str <$> v.scriptLiteral
  | attributeLiteral, v => .str <$> v.attributeLiteral
  | listLiteral, v => quotedItems v
  | importBlock, v => imports v
  | countLines, v => lineCount v

end Tool

end Polyschema.Emit
