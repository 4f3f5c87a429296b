/-
Polyschema.Yaml.Token — a YAML text as tokens.

Blocks are told apart by their indentation: where a line is indented
more than the block around it a block begins, and where it is indented
less blocks end. A key without a mark of its own is recognised by the
colon after it, so the place where one may have begun is remembered.

* `Token` — the words of the format, with the begin and the end of
  blocks made explicit.
* `Token.ofText` — the tokens of a text.

Tags and directives are not part of the format that is read here.
-/
import Polyschema.Yaml.Scalar

namespace Polyschema.Yaml

/-- A word of the format. -/
inductive Token where
  | documentStart
  | documentEnd
  | sequenceStart
  | mappingStart
  /-- The end of a block sequence or mapping. -/
  | blockEnd
  | flowSequenceStart
  | flowSequenceEnd
  | flowMappingStart
  | flowMappingEnd
  /-- The mark of an item of a block sequence. -/
  | item
  /-- The mark between the parts of a flow collection. -/
  | comma
  | key
  | value
  | anchor (name : String)
  | reference (name : String)
  /-- A scalar; a plain one may stand for something else than text. -/
  | scalar (text : String) (isPlain : Bool)
  deriving DecidableEq, Repr

/-- A place at which a key may have begun. -/
structure Candidate where
  /-- Whether nothing else can stand there. -/
  required : Bool
  index : Nat
  line : Nat
  column : Nat
  /-- The tokens before that place, last first, and their number. -/
  before : List Token
  count : Nat

namespace Candidate

/-- The greatest distance between a key and its colon. -/
def reach : Nat := 1024

/-- Whether a colon at a place can still belong to the candidate. -/
def inReach (k : Candidate) (c : Cursor) : Bool :=
  k.line == c.line && c.index - k.index ≤ reach

end Candidate

/-- A text read in part. -/
structure Scan where
  cursor : Cursor
  /-- The tokens so far, last first, and their number. -/
  tokens : List Token
  count : Nat
  /-- The columns of the open blocks, the innermost first. -/
  blocks : List Nat
  /-- Whether a key may begin here. -/
  keyAllowed : Bool
  /-- The candidate at the innermost level of flow collections. -/
  candidate : Option Candidate
  /-- The candidates at the levels around it. -/
  outer : List (Option Candidate)

namespace Scan

/-- A text of which nothing was read. -/
def start (text : List Char) : Scan where
  cursor := .start text
  tokens := []
  count := 0
  blocks := []
  keyAllowed := true
  candidate := none
  outer := []

def inFlow (s : Scan) : Bool := !s.outer.isEmpty

/-- The column of the innermost block; −1 stands for no block. -/
def indent (s : Scan) : Int := match s.blocks with
  | [] => -1
  | column :: _ => column

def emit (t : Token) (s : Scan) : Scan :=
  { s with tokens := t :: s.tokens, count := s.count + 1 }

def skip (n : Nat) (s : Scan) : Scan := { s with cursor := s.cursor.skip n }

/-- The same place, and whether a key may begin after it. -/
def allowing (keyAllowed : Bool) (s : Scan) : Scan := { s with keyAllowed := keyAllowed }

/-! ## Keys -/

def dropped? : Option Candidate → Option (Option Candidate)
  | some k => if k.required then none else some none
  | none => some none

/-- A candidate, unless the place is out of its reach. -/
def kept? (c : Cursor) (k : Option Candidate) : Option (Option Candidate) :=
  if k.all (·.inReach c) then some k else dropped? k

/-- Gives up the candidate at the innermost level. -/
def dropCandidate? (s : Scan) : Option Scan := do
  pure { s with candidate := ← dropped? s.candidate }

/-- Gives up the candidates that are out of reach. -/
def dropFar? (s : Scan) : Option Scan := do
  pure { s with
    candidate := ← kept? s.cursor s.candidate
    outer := ← s.outer.mapM (kept? s.cursor) }

/-- Remembers the place as one where a key may begin. -/
def saveCandidate? (s : Scan) : Option Scan :=
  if s.keyAllowed then do
    let s ← s.dropCandidate?
    let c := s.cursor
    pure { s with candidate := some {
      required := !s.inFlow && s.indent == Int.ofNat c.column
      index := c.index
      line := c.line
      column := c.column
      before := s.tokens
      count := s.count } }
  else some s

/-! ## Blocks -/

/-- Ends the blocks that are indented more than a column; flow
collections do not look at indentation. -/
def endBlocks (column : Int) (s : Scan) : Scan :=
  if s.inFlow then s
  else
    let ended := s.blocks.takeWhile fun b => column < Int.ofNat b
    (ended.foldl (fun s _ => s.emit .blockEnd) s) |> fun s =>
      { s with blocks := s.blocks.drop ended.length }

/-- Begins a block at a column, if it is indented more than the block
around it. -/
def beginBlock (t : Token) (column : Nat) (s : Scan) : Scan :=
  if s.indent < Int.ofNat column then
    { (s.emit t) with blocks := column :: s.blocks }
  else s

/-! ## Gaps -/

/-- The place after gaps and comments, and whether a key may begin
there. The fuel bounds the number of characters. -/
def afterGaps (inFlow : Bool) : Nat → Bool → Cursor → Bool × Cursor
  | 0, allowed, c => (allowed, c)
  | fuel + 1, allowed, c =>
    if c.sees ' ' then afterGaps inFlow fuel allowed c.step
    else if c.sees '#' then
      afterGaps inFlow fuel allowed (c.takeWhile (!isBreak ·)).2
    else match c.takeBreak with
      | some (_, c) => afterGaps inFlow fuel (allowed || !inFlow) c
      | none => (allowed, c)

/-- Goes to the next token. A mark of byte order may open the text. -/
def toToken (s : Scan) : Scan :=
  let c := s.cursor
  let c := if c.index = 0 ∧ c.sees orderMark then c.step else c
  let (allowed, c) := afterGaps s.inFlow c.rest.length s.keyAllowed c
  { s with cursor := c, keyAllowed := allowed }

/-! ## Tokens -/

/-- A line that says where a document begins or ends. -/
def documentMark? (t : Token) (s : Scan) : Option Scan := do
  let s ← (s.endBlocks (-1)).dropCandidate?
  pure ((s.emit t).skip 3 |>.allowing false)

def opening? (t : Token) (s : Scan) : Option Scan := do
  let s ← s.saveCandidate?
  pure ({ s with candidate := none, outer := s.candidate :: s.outer }.emit t |>.skip 1
    |>.allowing true)

def closing? (t : Token) (s : Scan) : Option Scan := do
  let s ← s.dropCandidate?
  match s.outer with
  | [] => none
  | k :: outer =>
    pure ({ s with candidate := k, outer := outer }.emit t |>.skip 1 |>.allowing false)

/-- The mark between the parts of a flow collection. -/
def comma? (s : Scan) : Option Scan := do
  let s ← s.dropCandidate?
  pure (s.emit .comma |>.skip 1 |>.allowing true)

def item? (s : Scan) : Option Scan := do
  let s ← if s.inFlow then some s
    else if s.keyAllowed then some (s.beginBlock .sequenceStart s.cursor.column)
    else none
  let s ← s.dropCandidate?
  pure (s.emit .item |>.skip 1 |>.allowing true)

def key? (s : Scan) : Option Scan := do
  let s ← if s.inFlow then some s
    else if s.keyAllowed then some (s.beginBlock .mappingStart s.cursor.column)
    else none
  let s ← s.dropCandidate?
  pure (s.emit .key |>.skip 1 |>.allowing !s.inFlow)

/-- The mark of a key put before the tokens that were read since a
candidate. -/
def markKey (k : Candidate) (s : Scan) : Scan :=
  let since := s.tokens.take (s.count - k.count)
  let s := { s with tokens := k.before, count := k.count, candidate := none }
  let s := (if s.inFlow then s else s.beginBlock .mappingStart k.column).emit .key
  { s with tokens := since ++ s.tokens, count := s.count + since.length }

/-- The colon before a value: what stands before it is its key, if a key
may have begun there. -/
def value? (s : Scan) : Option Scan :=
  match s.candidate with
  | some k => some ((s.markKey k).emit .value |>.skip 1 |>.allowing false)
  | none => do
    let s ← if s.inFlow then some s
      else if s.keyAllowed then some (s.beginBlock .mappingStart s.cursor.column)
      else none
    let s ← s.dropCandidate?
    pure (s.emit .value |>.skip 1 |>.allowing !s.inFlow)

def isNameChar (c : Char) : Bool := c.isAlphanum || c == '-' || c == '_'

/-- Whether the name of an anchor may end here. -/
def endsName (next : Option Char) : Bool :=
  isGap next || next.any fun c => "?:,]\x7d%@\x60".toList.contains c

def name? (make : String → Token) (s : Scan) : Option Scan := do
  let s ← s.saveCandidate?
  let (name, c) := s.cursor.step.takeWhile isNameChar
  if !name.isEmpty && endsName c.peek then
    pure ({ s with cursor := c }.emit (make (String.ofList name)) |>.allowing false)
  else none

def quotedScalar (quote : Char) (s : Scan) : Except ReadFault Scan := do
  let s ← formed s.saveCandidate?
  let (text, c) ← quoted quote s.cursor
  pure ({ s with cursor := c }.emit (.scalar text false) |>.allowing false)

def plainScalar? (s : Scan) : Option Scan := do
  let s ← s.saveCandidate?
  let read := plain s.inFlow (s.indent + 1).toNat s.cursor
  pure ({ s with cursor := read.cursor }.emit (.scalar read.text true)
    |>.allowing read.newLine)

/-- A scalar that fills lines of its own. -/
def blockScalar? (s : Scan) : Option Scan := do
  let s ← s.dropCandidate?
  let (text, c) ← block? s.indent s.cursor
  pure ({ s with cursor := c }.emit (.scalar text false) |>.allowing true)

/-- The characters that a plain scalar does not begin with, unless a
rule of its own allows it. -/
def isMark (c : Char) : Bool :=
  "-?:,[]\x7b\x7d#&*!|>'\"%@\x60".toList.contains c

/-- The next token, which begins with a character that is no quote and is
followed by another. -/
def tokenAt? (first : Char) (next : Option Char) (s : Scan) : Option Scan :=
  if s.cursor.column = 0 ∧ s.cursor.seesMark '-' then s.documentMark? .documentStart
  else if s.cursor.column = 0 ∧ s.cursor.seesMark '.' then s.documentMark? .documentEnd
  else match first with
    | '[' => s.opening? .flowSequenceStart
    | '\x7b' => s.opening? .flowMappingStart
    | ']' => s.closing? .flowSequenceEnd
    | '\x7d' => s.closing? .flowMappingEnd
    | ',' => s.comma?
    | '-' => if isGap next then s.item? else s.plainScalar?
    | '?' => if s.inFlow || isGap next then s.key? else s.plainScalar?
    | ':' => if s.inFlow || isGap next then s.value? else s.plainScalar?
    | '&' => s.name? .anchor
    | '*' => s.name? .reference
    | '|' | '>' => if s.inFlow then none else s.blockScalar?
    | c => if isGap (some c) || isMark c then none else s.plainScalar?

/-- The tokens up to the end of the text. The fuel bounds their
number. -/
def tokensToEnd : Nat → Scan → Except ReadFault (List Token)
  | 0, _ => .error .malformed
  | fuel + 1, s => do
    let s ← formed s.toToken.dropFar?
    match s.cursor.rest with
    | [] =>
      let s ← formed (s.endBlocks (-1)).dropCandidate?
      pure s.tokens.reverse
    | first :: rest =>
      let s := s.endBlocks s.cursor.column
      let s ← if first = '\'' ∨ first = '"' then s.quotedScalar first
        else formed (s.tokenAt? first rest.head?)
      tokensToEnd fuel s

end Scan

def Token.ofText (text : List Char) : Except ReadFault (List Token) :=
  if text.all isAllowed then Scan.tokensToEnd (text.length + 1) (.start text)
  else .error .malformed

end Polyschema.Yaml
