/-
Polyschema.Emit.Import — what a TypeScript file must import.

* `importBlock` — the import lines for names by module, sorted and
  without repetition.
* `freeCalls` — the functions that a text calls, methods left out.
* `withoutOpaque` — a text without its literals, templates of SQL and
  comments, in which nothing is called.
-/
import Polyschema.Text.Lines
import Polyschema.Text.Sorted
import Polyschema.Text.Word

namespace Polyschema.Emit

open Polyschema.Text

/-! ## Import lines -/

def importLine (module : String) (names : List String) : String :=
  s!"import \x7b {commas names} \x7d from '{module}';"

/-- The import lines for the names of each module; a module without
names has none. -/
def importBlock (imports : List (String × List String)) : String :=
  let ordered := imports.mergeSort fun a b => decide (a.1 ≤ b.1)
  lines ((ordered.filter fun (_, names) => !names.isEmpty).map fun (module, names) =>
    importLine module (sortedSet names))

/-! ## Opaque text -/

def backtick : Char := Char.ofNat 0x60

/-- The length of a quoted literal after its opening quote, with the
closing one. It may hold escapes but no line feed. -/
def quotedLength? (mark : Char) : List Char → Option Nat
  | [] => none
  | c :: rest =>
    if c = mark then some 1
    else if c = '\n' then none
    else if c.toNat = 0x5c then
      match rest with
      | [] => none
      | d :: rest =>
        if d = '\n' then none else (quotedLength? mark rest).map (· + 2)
    else (quotedLength? mark rest).map (· + 1)

/-- The length of a text up to and with the next backtick. -/
def templateLength? : List Char → Option Nat
  | [] => none
  | c :: rest => if c = backtick then some 1 else (templateLength? rest).map (· + 1)

def sqlOpening : List Char := ['s', 'q', 'l', backtick]

/-- The length of the opaque stretch that begins here, if one does. -/
def opaqueLength? (cs : List Char) : Option Nat :=
  let template :=
    if sqlOpening.isPrefixOf cs then (templateLength? (cs.drop 4)).map (· + 4) else none
  match template with
  | some n => some n
  | none => match cs with
    | '/' :: '/' :: rest => some (2 + (rest.takeWhile (· != '\n')).length)
    | c :: rest =>
      if c.toNat = 0x27 ∨ c.toNat = 0x22 then (quotedLength? c rest).map (· + 1)
      else none
    | [] => none

/-- A text without its opaque stretches, from left to right. `skip`
counts the characters of a stretch still to come. -/
def withoutOpaque (skip : Nat) : List Char → List Char
  | [] => []
  | c :: rest =>
    if 0 < skip then withoutOpaque (skip - 1) rest
    else match opaqueLength? (c :: rest) with
      | some n => withoutOpaque (n - 1) rest
      | none => c :: withoutOpaque 0 rest

/-! ## Calls -/

/-- A character that may open the name of a function. -/
def opensCall (c : Char) : Bool := c.isAlpha || c == '_'

/-- The functions called in a text, of which `before` is the last
character read. After a point or inside a word no name begins. -/
def freeCalls (before : Option Char) : List Char → List String
  | [] => []
  | c :: rest =>
    let later := freeCalls (some c) rest
    if opensCall c && !before.any (fun b => b == '.' || isWord b) &&
        (rest.dropWhile isWord).head? == some '(' then
      String.ofList (c :: rest.takeWhile isWord) :: later
    else later

/-- The functions that a text calls outside its opaque stretches. -/
def calledNames (body : String) : List String :=
  freeCalls none (withoutOpaque 0 body.toList)

def holds (part : List Char) : List Char → Bool
  | [] => part.isEmpty
  | c :: rest => part.isPrefixOf (c :: rest) || holds part rest

end Polyschema.Emit
