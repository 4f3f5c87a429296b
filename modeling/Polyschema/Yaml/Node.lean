/-
Polyschema.Yaml.Node — a YAML document as a tree.

* `Node` — scalars, sequences and mappings. A plain scalar is told from
  a quoted one, since only a plain one may stand for something else than
  its text.
* `Node.ofTokens?` — the tree of the one document of a text.

A reference stands for the whole node that its anchor names. It has to
come after that node, and no two anchors have one name.
-/
import Polyschema.Yaml.Token

namespace Polyschema.Yaml

/-- A part of a document. -/
inductive Node where
  | scalar (text : String) (isPlain : Bool)
  | sequence (items : List Node)
  | mapping (entries : List (Node × Node))
  deriving Inhabited

def Node.nothing : Node := .scalar "" true

/-- Tokens still to be read, with the nodes that were named so far. -/
structure Remaining where
  tokens : List Token
  named : List (String × Node)

namespace Remaining

def peek (r : Remaining) : Option Token := r.tokens.head?

def drop (r : Remaining) : Remaining := { r with tokens := r.tokens.drop 1 }

def sees (r : Remaining) (t : Token) : Bool := r.peek == some t

def seesOneOf (r : Remaining) (ts : List Token) : Bool := r.peek.any ts.contains

def take? (t : Token) (r : Remaining) : Option Remaining :=
  if r.sees t then some r.drop else none

/-- Takes the anchor that may come next. -/
def takeAnchor (r : Remaining) : Option String × Remaining :=
  match r.peek with
  | some (.anchor name) => (some name, r.drop)
  | _ => (none, r)

def name? (anchor : Option String) (n : Node) (r : Remaining) :
    Option (Node × Remaining) :=
  match anchor with
  | none => some (n, r)
  | some name =>
    if (r.named.lookup name).isSome then none
    else some (n, { r with named := (name, n) :: r.named })

end Remaining

/-- Where a node stands, which decides what it may be. -/
inductive Place where
  | block
  /-- The value or the key of a block mapping, where the items of a
  sequence need not be indented. -/
  | entry
  | flow
  deriving DecidableEq, Repr

namespace Node

open Token in
mutual
/-- A node that may be named. The fuel of this and of the readers below
bounds the number of tokens. -/
def node? (place : Place) : Nat → Remaining → Option (Node × Remaining)
  | 0, _ => none
  | fuel + 1, r =>
    match r.peek with
    | some (.reference name) => (r.named.lookup name).map (·, r.drop)
    | _ =>
      let (given, r) := r.takeAnchor
      match content? place given.isSome fuel r with
      | some (n, r) => r.name? given n
      | none => none

/-- A node without its name. A name alone stands for nothing. -/
def content? (place : Place) (isNamed : Bool) :
    Nat → Remaining → Option (Node × Remaining)
  | 0, _ => none
  | fuel + 1, r =>
    match r.peek, place with
    | some (.scalar text isPlain), _ => some (.scalar text isPlain, r.drop)
    | some flowSequenceStart, _ => flowItems? fuel true [] r.drop
    | some flowMappingStart, _ => flowEntries? fuel true [] r.drop
    | some item, .entry => looseItems? fuel [] r
    | some sequenceStart, .block | some sequenceStart, .entry => items? fuel [] r.drop
    | some mappingStart, .block | some mappingStart, .entry => entries? fuel [] r.drop
    | _, _ => if isNamed then some (nothing, r) else none

/-- A node, or nothing if one of some tokens comes next. -/
def nodeBefore? (ends : List Token) (place : Place) :
    Nat → Remaining → Option (Node × Remaining)
  | 0, _ => none
  | fuel + 1, r => if r.seesOneOf ends then some (nothing, r) else node? place fuel r

/-- The items of a block sequence; `read` holds those read, last
first. -/
def items? : Nat → List Node → Remaining → Option (Node × Remaining)
  | 0, _, _ => none
  | fuel + 1, read, r =>
    if r.sees item then
      match nodeBefore? [item, blockEnd] .block fuel r.drop with
      | some (n, r) => items? fuel (n :: read) r
      | none => none
    else (r.take? blockEnd).map (.sequence read.reverse, ·)

/-- The items of a sequence that is not indented in its mapping. -/
def looseItems? : Nat → List Node → Remaining → Option (Node × Remaining)
  | 0, _, _ => none
  | fuel + 1, read, r =>
    if r.sees item then
      match nodeBefore? [item, key, value, blockEnd] .block fuel r.drop with
      | some (n, r) => looseItems? fuel (n :: read) r
      | none => none
    else some (.sequence read.reverse, r)

/-- The entries of a block mapping. A key may stand without a value. -/
def entries? : Nat → List (Node × Node) → Remaining → Option (Node × Remaining)
  | 0, _, _ => none
  | fuel + 1, read, r =>
    if r.seesOneOf [key] then
      match nodeBefore? [key, value, blockEnd] .entry fuel r.drop with
      | some (k, r) => match entryValue? [key, value, blockEnd] .entry fuel r with
        | some (v, r) => entries? fuel ((k, v) :: read) r
        | none => none
      | none => none
    else (r.take? blockEnd).map (.mapping read.reverse, ·)

def entryValue? (ends : List Token) (place : Place) :
    Nat → Remaining → Option (Node × Remaining)
  | 0, _ => none
  | fuel + 1, r =>
    if r.sees value then nodeBefore? ends place fuel r.drop else some (nothing, r)

/-- The items of a flow sequence; an item with a key is a mapping of its
own. The flag says that no item was read. -/
def flowItems? : Nat → Bool → List Node → Remaining → Option (Node × Remaining)
  | 0, _, _, _ => none
  | fuel + 1, isFirst, read, r =>
    if r.sees flowSequenceEnd then some (.sequence read.reverse, r.drop)
    else match if isFirst then some r else r.take? comma with
      | none => none
      | some r =>
        if r.sees key then
          match nodeBefore? [value, comma, flowSequenceEnd] .flow fuel r.drop with
          | some (k, r) => match entryValue? [comma, flowSequenceEnd] .flow fuel r with
            | some (v, r) => flowItems? fuel false (.mapping [(k, v)] :: read) r
            | none => none
          | none => none
        else if r.sees flowSequenceEnd then some (.sequence read.reverse, r.drop)
        else match node? .flow fuel r with
          | some (n, r) => flowItems? fuel false (n :: read) r
          | none => none

/-- The entries of a flow mapping; a node alone is a key without a
value. -/
def flowEntries? : Nat → Bool → List (Node × Node) → Remaining →
    Option (Node × Remaining)
  | 0, _, _, _ => none
  | fuel + 1, isFirst, read, r =>
    if r.sees flowMappingEnd then some (.mapping read.reverse, r.drop)
    else match if isFirst then some r else r.take? comma with
      | none => none
      | some r =>
        if r.sees key then
          match nodeBefore? [value, comma, flowMappingEnd] .flow fuel r.drop with
          | some (k, r) => match entryValue? [comma, flowMappingEnd] .flow fuel r with
            | some (v, r) => flowEntries? fuel false ((k, v) :: read) r
            | none => none
          | none => none
        else if r.sees flowMappingEnd then some (.mapping read.reverse, r.drop)
        else match node? .flow fuel r with
          | some (n, r) => flowEntries? fuel false ((n, nothing) :: read) r
          | none => none
end

/-- The node of a document, in front of which its mark may stand. -/
def document? (fuel : Nat) (r : Remaining) : Option (Node × Remaining) :=
  if r.sees .documentStart then
    let r := r.drop
    if r.peek.isNone || r.seesOneOf [.documentStart, .documentEnd] then some (nothing, r)
    else node? .block fuel r
  else node? .block fuel r

/-- The node of the one document that the tokens make up; without tokens
it is nothing. -/
def ofTokens? (tokens : List Token) : Option Node :=
  if tokens.isEmpty then some nothing
  else match document? (4 * tokens.length + 4) ⟨tokens, []⟩ with
    | some (n, r) => if r.tokens.all (· == .documentEnd) then some n else none
    | none => none

end Node

end Polyschema.Yaml
