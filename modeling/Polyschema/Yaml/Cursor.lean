/-
Polyschema.Yaml.Cursor — a place in a YAML text.

* `Cursor` — what is still to be read, and where it stands.
* `Cursor.step` — one character further; lines and columns are counted.
* `Cursor.takeWhile`, `Cursor.takeBreak` — runs of characters and line
  breaks.
-/

namespace Polyschema.Yaml

def isBreak (c : Char) : Bool :=
  c == '\n' || c == '\r' || c == '\u0085' || c == '\u2028' || c == '\u2029'

/-- Whether a line, a word or the text ends here. -/
def isGap : Option Char → Bool
  | none => true
  | some c => c == ' ' || c == '\t' || isBreak c

/-- The byte order mark, which takes no room on its line. -/
def orderMark : Char := '\ufeff'

/-- The characters that a text may hold. -/
def isAllowed (c : Char) : Bool :=
  let n := c.toNat
  n == 0x9 || n == 0xa || n == 0xd || (0x20 ≤ n && n ≤ 0x7e) || n == 0x85 ||
    (0xa0 ≤ n && n ≤ 0xfffd) || 0x10000 ≤ n

/-- A place in a text. -/
structure Cursor where
  /-- What is still to be read. -/
  rest : List Char
  /-- How many characters were read. -/
  index : Nat
  line : Nat
  column : Nat

namespace Cursor

def start (text : List Char) : Cursor := ⟨text, 0, 0, 0⟩

def peek (c : Cursor) : Option Char := c.rest.head?

def sees (c : Cursor) (x : Char) : Bool := c.peek == some x

/-- Whether a character ends its line, given what follows it. A carriage
return before a line feed leaves that to the line feed. -/
def endsLine (x : Char) (after : List Char) : Bool :=
  isBreak x && !(x == '\r' && after.head? == some '\n')

def step (c : Cursor) : Cursor :=
  match c.rest with
  | [] => c
  | x :: rest =>
    if endsLine x rest then ⟨rest, c.index + 1, c.line + 1, 0⟩
    else ⟨rest, c.index + 1, c.line, c.column + if x = orderMark then 0 else 1⟩

def skip : Nat → Cursor → Cursor
  | 0, c => c
  | n + 1, c => skip n c.step

/-- The characters up to the first that fails a test. -/
def takeWhile (test : Char → Bool) (c : Cursor) : List Char × Cursor :=
  let run := c.rest.takeWhile test
  (run, c.skip run.length)

/-- A line break with the character it stands for: a line feed, or else
one of the two separators. -/
def takeBreak (c : Cursor) : Option (Char × Cursor) :=
  match c.rest with
  | '\r' :: '\n' :: _ => some ('\n', c.skip 2)
  | x :: _ =>
    if x == '\u2028' || x == '\u2029' then some (x, c.step)
    else if isBreak x then some ('\n', c.step)
    else none
  | [] => none

/-- Whether the text goes on with three marks and then a gap. -/
def seesMark (mark : Char) (c : Cursor) : Bool :=
  c.rest.take 3 == [mark, mark, mark] && isGap c.rest[3]?

/-- Whether a line that says where a document begins or ends would
follow at the start of a line. -/
def seesDocumentMark (c : Cursor) : Bool := c.seesMark '-' || c.seesMark '.'

end Cursor

end Polyschema.Yaml
