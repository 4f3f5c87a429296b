/-
Polyschema.Yaml.Scalar — the texts of scalars.

* `plain` — a scalar without marks, over one line or several.
* `quoted` — a scalar in single or double quotes.
* `block` — a scalar that fills indented lines of its own.

Lines of one scalar are folded: a single break becomes a blank, and of
several breaks all but the first are kept.
-/
import Polyschema.Fault
import Polyschema.Number.Read
import Polyschema.Yaml.Cursor

namespace Polyschema.Yaml

open Polyschema.Number

def formed {α : Type} (a : Option α) : Except ReadFault α := a.elim (.error .malformed) .ok

/-- A break that is followed by further ones, as it is folded. -/
def folded (first : Char) (further : List Char) : List Char :=
  if first ≠ '\n' then first :: further
  else if further.isEmpty then [' '] else further

/-! ## Plain scalars -/

def isFlowMark (c : Char) : Bool :=
  c == ',' || c == '[' || c == ']' || c == '\x7b' || c == '\x7d'

/-- Whether a colon that is followed like this ends a plain scalar. -/
def endsKey (inFlow : Bool) (next : Option Char) : Bool :=
  isGap next || (inFlow && next.any isFlowMark)

/-- How many characters of a plain scalar follow without a gap. -/
def plainRun (inFlow : Bool) : List Char → Nat
  | [] => 0
  | c :: rest =>
    if isGap (some c) || (c == ':' && endsKey inFlow rest.head?) ||
        (inFlow && (isFlowMark c || c == '?')) then 0
    else plainRun inFlow rest + 1

/-- The further breaks after the first, with the blanks around them; the
flag says that a document mark follows. The fuel bounds the number of
characters. -/
def plainBreaks : Nat → List Char → Cursor → List Char × Bool × Cursor
  | 0, breaks, c => (breaks.reverse, c.seesDocumentMark, c)
  | fuel + 1, breaks, c =>
    if c.sees ' ' then plainBreaks fuel breaks c.step
    else match c.takeBreak with
      | none => (breaks.reverse, false, c)
      | some (x, c) =>
        if c.seesDocumentMark then ([], true, c)
        else plainBreaks fuel (x :: breaks) c

/-- What lies between two runs of a plain scalar. -/
structure Space where
  /-- What it stands for; nothing if the scalar ends here. -/
  text : List Char
  /-- Whether it crosses a line. -/
  newLine : Bool
  cursor : Cursor

def plainSpace (c : Cursor) : Space :=
  let (blanks, c) := c.takeWhile (· == ' ')
  match c.takeBreak with
  | none => ⟨blanks, false, c⟩
  | some (first, c) =>
    if c.seesDocumentMark then ⟨[], true, c⟩
    else
      let (further, marked, c) := plainBreaks c.rest.length [] c
      ⟨if marked then [] else folded first further, true, c⟩

/-- A scalar that was read. -/
structure Scanned where
  text : String
  /-- Whether the place after it is at the start of a line, gaps
  aside. -/
  newLine : Bool
  cursor : Cursor

/-- The rest of a plain scalar after `read`, last first, and a space.
Lines in a block must be indented to a column at least. The fuel bounds
the number of runs. -/
def plainRest (inFlow : Bool) (indent : Nat) :
    Nat → List Char → Space → Scanned
  | 0, read, space => ⟨String.ofList read.reverse, space.newLine, space.cursor⟩
  | fuel + 1, read, space =>
    let c := space.cursor
    let length := if c.sees '#' then 0 else plainRun inFlow c.rest
    if space.text.isEmpty || (!inFlow && c.column < indent) || length = 0 then
      ⟨String.ofList read.reverse, space.newLine, c⟩
    else
      let read := (c.rest.take length).reverse ++ (space.text.reverse ++ read)
      plainRest inFlow indent fuel read (plainSpace (c.skip length))

def plain (inFlow : Bool) (indent : Nat) (c : Cursor) : Scanned :=
  let length := plainRun inFlow c.rest
  plainRest inFlow indent c.rest.length (c.rest.take length).reverse
    (plainSpace (c.skip length))

/-! ## Quoted scalars -/

def escapes : List (Char × Nat) := [
  ('0', 0x0), ('a', 0x7), ('b', 0x8), ('t', 0x9), ('\t', 0x9), ('n', 0xa), ('v', 0xb),
  ('f', 0xc), ('r', 0xd), ('e', 0x1b), (' ', 0x20), ('"', 0x22), ('\\', 0x5c),
  ('/', 0x2f), ('N', 0x85), ('_', 0xa0), ('L', 0x2028), ('P', 0x2029)]

/-- How many hexadecimal digits follow a letter that asks for them. -/
def escapeDigits : Char → Option Nat
  | 'x' => some 2
  | 'u' => some 4
  | 'U' => some 8
  | _ => none

def hexNumber? (digits : List Char) : Option Nat :=
  digits.foldlM (fun n c => (hexValue? c).map (16 * n + ·)) 0

/-- The code of an escape after its backslash, with the place after
it. -/
def escapeCode? (c : Cursor) : Option (Nat × Cursor) := do
  let letter ← c.peek
  match escapes.lookup letter, escapeDigits letter with
  | some code, _ => some (code, c.step)
  | none, some count =>
    let digits := (c.step.rest).take count
    if digits.length = count then (← hexNumber? digits, c.step.skip count) else none
  | none, none => none

/-- The greatest code that may be asked for a character at all. -/
def codeLimit : Nat := 0x7fffffff

/-- The character of an escape after its backslash. Two halves of one
character count as that character. -/
def escape (c : Cursor) : Except ReadFault (Char × Cursor) := do
  let (code, after) ← formed (escapeCode? c)
  if 0xd800 ≤ code ∧ code ≤ 0xdbff then
    match after.rest, escapeCode? after.step with
    | '\\' :: _, some (low, last) =>
      if 0xdc00 ≤ low ∧ low ≤ 0xdfff then
        pure (Char.ofNat (0x10000 + (code - 0xd800) * 0x400 + (low - 0xdc00)), last)
      else pure (Char.ofNat 0xfffd, after)
    | _, _ => pure (Char.ofNat 0xfffd, after)
  else if 0xdc00 ≤ code ∧ code ≤ 0xdfff then pure (Char.ofNat 0xfffd, after)
  else if codeLimit < code then throw (.other (.misuse .outOfRange))
  else if 0x10ffff < code then throw (.other (.misuse .badContent))
  else pure (Char.ofNat code, after)

/-- The breaks after a first one in a quoted scalar. A document mark is
not allowed there. The fuel bounds the number of lines. -/
def quotedBreaks? : Nat → List Char → Cursor → Option (List Char × Cursor)
  | 0, _, _ => none
  | fuel + 1, breaks, c =>
    if c.seesDocumentMark then none
    else
      let (_, c) := c.takeWhile fun x => x == ' ' || x == '\t'
      match c.takeBreak with
      | none => some (breaks.reverse, c)
      | some (x, c) => quotedBreaks? fuel (x :: breaks) c

/-- The rest of a quoted scalar after `read`, last first. The fuel
bounds the number of characters. -/
def quotedRest (quote : Char) :
    Nat → List Char → Cursor → Except ReadFault (String × Cursor)
  | 0, _, _ => .error .malformed
  | fuel + 1, read, c =>
    match c.rest with
    | [] => .error .malformed
    | x :: rest =>
      if x = quote then
        if quote = '\'' ∧ rest.head? = some '\'' then
          quotedRest quote fuel ('\'' :: read) (c.skip 2)
        else .ok (String.ofList read.reverse, c.step)
      else if x = '\\' ∧ quote = '"' then
        match c.step.takeBreak with
        | some (_, c) => do
          let (breaks, c) ← formed (quotedBreaks? fuel [] c)
          quotedRest quote fuel (breaks.reverse ++ read) c
        | none => do
          let (y, c) ← escape c.step
          quotedRest quote fuel (y :: read) c
      else if isGap (some x) then
        let (blanks, c) := c.takeWhile fun y => y == ' ' || y == '\t'
        match c.takeBreak with
        | none => quotedRest quote fuel (blanks.reverse ++ read) c
        | some (first, c) => do
          let (further, c) ← formed (quotedBreaks? fuel [] c)
          quotedRest quote fuel ((folded first further).reverse ++ read) c
      else quotedRest quote fuel (x :: read) c.step

def quoted (quote : Char) (c : Cursor) : Except ReadFault (String × Cursor) :=
  quotedRest quote (c.rest.length + 1) [] c.step

/-! ## Block scalars -/

/-- What becomes of the breaks at the end of a block scalar. -/
inductive Chomping where
  /-- One is kept. -/
  | clip
  | strip
  | keep
  deriving DecidableEq, Repr

/-- What the first line of a block scalar says. -/
structure BlockHeader where
  chomping : Chomping
  /-- By how many columns the lines are indented, if that is said. -/
  increment : Option Nat

/-- The sign for the breaks at the end, if it stands here. -/
def chomping? (c : Cursor) : Option (Chomping × Cursor) :=
  if c.sees '+' then some (.keep, c.step)
  else if c.sees '-' then some (.strip, c.step)
  else none

/-- The digit for the indentation, if it stands here; it is not zero. -/
def increment? (c : Cursor) : Option (Nat × Cursor) := do
  let digit ← c.peek
  if digit.isDigit ∧ digit ≠ '0' then some (digit.toNat - 0x30, c.step) else none

/-- The signs of the first line, in either order. -/
def blockSigns (c : Cursor) : BlockHeader × Cursor :=
  match chomping? c, increment? c with
  | some (sign, c), _ => match increment? c with
    | some (n, c) => (⟨sign, some n⟩, c)
    | none => (⟨sign, none⟩, c)
  | none, some (n, c) => match chomping? c with
    | some (sign, c) => (⟨sign, some n⟩, c)
    | none => (⟨.clip, some n⟩, c)
  | none, none => (⟨.clip, none⟩, c)

/-- The first line of a block scalar: its signs, then at most a
comment. -/
def blockHeader? (c : Cursor) : Option (BlockHeader × Cursor) :=
  let (header, c) := blockSigns c
  let (blanks, c) := c.takeWhile (· == ' ')
  let (_, c) :=
    if c.sees '#' && !blanks.isEmpty then c.takeWhile (!isBreak ·) else ([], c)
  match c.rest, c.takeBreak with
  | [], _ => some (header, c)
  | _, some (_, c) => some (header, c)
  | _, none => none

/-- The empty lines that come first, with the widest indentation that
was met. The fuel bounds the number of characters. -/
def leadingBreaks : Nat → List Char → Nat → Cursor → List Char × Nat × Cursor
  | 0, breaks, widest, c => (breaks, widest, c)
  | fuel + 1, breaks, widest, c =>
    if c.sees ' ' then leadingBreaks fuel breaks (max widest c.step.column) c.step
    else match c.takeBreak with
      | some (x, c) => leadingBreaks fuel (x :: breaks) widest c
      | none => (breaks, widest, c)

/-- The blanks before a column. The fuel bounds their number. -/
def skipIndent (indent : Nat) : Nat → Cursor → Cursor
  | 0, c => c
  | fuel + 1, c =>
    if c.column < indent && c.sees ' ' then skipIndent indent fuel c.step else c

/-- The empty lines before a line that is indented to a column; the
breaks stand last first. The fuel bounds their number. -/
def innerBreaks (indent : Nat) : Nat → List Char → Cursor → List Char × Cursor
  | 0, breaks, c => (breaks, c)
  | fuel + 1, breaks, c =>
    let c := skipIndent indent indent c
    match c.takeBreak with
    | some (x, c) => innerBreaks indent fuel (x :: breaks) c
    | none => (breaks, c)

/-- Whether a line begins with a character that is no blank. -/
def opensFlush (c : Cursor) : Bool := c.peek.any fun x => x != ' ' && x != '\t'

/-- A block scalar whose last line was read: what was read of it, the
break after that line and the empty lines that follow, last first. -/
def BlockHeader.finish (header : BlockHeader) (read last breaks : List Char) : String :=
  String.ofList <| List.reverse <| match header.chomping with
    | .strip => read
    | .clip => last ++ read
    | .keep => breaks ++ (last ++ read)

/-- What stands for the break between two lines of a block scalar.
Folding spares lines that begin with a blank. -/
def joint (isFolded flush : Bool) (ended : Char) (breaks : List Char) : List Char :=
  if isFolded && ended == '\n' && flush then
    if breaks.isEmpty then [' '] else []
  else [ended]

/-- The lines of a block scalar. `read` and `breaks` hold the text so
far and the empty lines after it, last first. The fuel bounds the number
of lines. -/
def blockLines (isFolded : Bool) (header : BlockHeader) (indent : Nat) :
    Nat → List Char → List Char → Cursor → String × Cursor
  | 0, read, breaks, c => (header.finish read [] breaks, c)
  | fuel + 1, read, breaks, c =>
    if c.column = indent && !c.rest.isEmpty then
      let flush := opensFlush c
      let (run, c) := c.takeWhile (!isBreak ·)
      let read := run.reverse ++ (breaks ++ read)
      match c.takeBreak with
      | none => (header.finish read [] [], c)
      | some (ended, c) =>
        let (breaks, c) := innerBreaks indent (c.rest.length + 1) [] c
        if c.column = indent && !c.rest.isEmpty then
          let between := joint isFolded (flush && opensFlush c) ended breaks
          blockLines isFolded header indent fuel (between ++ read) breaks c
        else (header.finish read [ended] breaks, c)
    else (header.finish read [] breaks, c)

/-- The block scalar whose sign stands here, in a block at a column;
−1 stands for no block. -/
def block? (outer : Int) (c : Cursor) : Option (String × Cursor) := do
  let isFolded := c.sees '>'
  let (header, c) ← blockHeader? c.step
  let least := (outer + 1).toNat.max 1
  let fuel := c.rest.length + 1
  match header.increment with
  | some n =>
    let indent := least + n - 1
    let (breaks, c) := innerBreaks indent fuel [] c
    pure (blockLines isFolded header indent fuel [] breaks c)
  | none =>
    let (breaks, widest, c) := leadingBreaks fuel [] 0 c
    pure (blockLines isFolded header (max least widest) fuel [] breaks c)

end Polyschema.Yaml
