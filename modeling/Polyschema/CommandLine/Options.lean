/-
Polyschema.CommandLine.Options — what can be asked for on the command
line.

* `Switch` — the options by their names.
* `Word` — an argument, told apart by how it is spelled.
* `Request.ofArguments?` — what all arguments ask for together.

A name with two hyphens may be cut short as long as no other name begins
like it, and a value may follow it after an equals sign. Names with one
hyphen have one letter, and several may be joined; the last of them may
have its value attached.
-/
import Polyschema.Dialect
import Polyschema.Text.Cut
import Polyschema.Text.Ranges

namespace Polyschema.CommandLine

open Polyschema.Text

/-! ## Names -/

/-- An option. -/
inductive Switch where
  | help
  | version
  | schema
  | output
  | validateOnly
  | migration
  | dialect
  | variant
  | versionTag
  | failOnWarnings
  | timestamp
  | verbose
  | quiet
  deriving DecidableEq, Repr

namespace Switch

def names : List (String × Switch) := [
  ("-h", help), ("--help", help), ("--version", version),
  ("-s", schema), ("--schema", schema), ("-o", output), ("--output", output),
  ("--validate-only", validateOnly), ("--migration", migration),
  ("--dialect", dialect), ("--sql-variant", variant), ("--version-tag", versionTag),
  ("--fail-on-warnings", failOnWarnings), ("--timestamp", timestamp),
  ("-v", verbose), ("--verbose", verbose), ("-q", quiet), ("--quiet", quiet)]

def takesValue : Switch → Bool
  | schema | output | dialect | variant | versionTag => true
  | _ => false

def ofName? (name : String) : Option Switch := names.lookup name

end Switch

/-! ## Words -/

/-- An argument. -/
inductive Word where
  /-- A value, or a word that belongs to no option. -/
  | plain (text : String)
  /-- Two hyphens alone. -/
  | divider
  /-- What looks like an option and is none. -/
  | unknown
  /-- An option, the flag saying whether its name has one letter, with
  the characters attached to it. -/
  | named (s : Switch) (isShort : Bool) (attached : Option (List Char))
  deriving DecidableEq, Repr

/-- Whether a text is a negative number: it is no option. -/
def isNegativeNumber (s : String) : Bool :=
  let isDigit (c : Char) : Bool := (digitValue? c).isSome
  match s.toList with
  | '-' :: body =>
    let tail := body.dropWhile isDigit
    (!body.isEmpty && tail.isEmpty) || match tail with
      | '.' :: part => !part.isEmpty && part.all isDigit
      | _ => false
  | _ => false

/-- What stands before and after the first equals sign. -/
def cutValue (s : String) : String × Option (List Char) :=
  match cut? "=" s with
  | some (name, value) => (name, some value.toList)
  | none => (s, none)

/-- The options whose names begin like a word with two hyphens. -/
def beginningLike (opening : String) : List Switch :=
  (Switch.names.filter fun (name, _) =>
    opening.toList.isPrefixOf name.toList).map Prod.snd

/-- A word with two hyphens that is cut short: there may be one option
for it or none. -/
def longWord? (s : String) : Option Word :=
  let (opening, value) := cutValue s
  match beginningLike opening with
  | [] => some .unknown
  | [switch] => some (.named switch false value)
  | _ => none

/-- A word with one hyphen: an option with characters attached. -/
def shortWord (s : String) : Word :=
  match Switch.ofName? (String.ofList (s.toList.take 2)) with
  | some switch => .named switch true (some (s.toList.drop 2))
  | none => .unknown

def isShortName (name : String) : Bool := name.toList[1]? != some '-'

/-- An option that is named in full, with the value after an equals
sign. -/
def fullWord? (s : String) : Option Word :=
  match Switch.ofName? s with
  | some switch => some (.named switch (isShortName s) none)
  | none => match cutValue s with
    | (name, some value) => (Switch.ofName? name).map fun switch =>
        .named switch (isShortName name) (some value)
    | _ => none

/-- What an argument is on its own; none if it may be several
options. -/
def Word.ofArgument? (s : String) : Option Word :=
  match s.toList with
  | '-' :: second :: _ =>
    match fullWord? s with
    | some w => some w
    | none => do
      let w ← if second = '-' then longWord? s else some (shortWord s)
      if w = .unknown ∧ (isNegativeNumber s ∨ s.toList.contains ' ') then
        some (.plain s)
      else some w
  | _ => some (.plain s)

/-- What the arguments are. After two hyphens alone all are plain. -/
def wordsOf? : List String → Option (List Word)
  | [] => some []
  | s :: rest =>
    if s = "--" then some (.divider :: rest.map .plain)
    else do pure ((← Word.ofArgument? s) :: (← wordsOf? rest))

/-! ## Options with their values -/

abbrev Setting := Switch × Option String

/-- The settings of joined options after the first one; `next` is the
word after them. The flag says whether that word is used as a value. -/
def joined? (next : Option Word) : List Char → Option (List Setting × Bool)
  | [] => none
  | c :: rest => do
    let s ← Switch.ofName? (String.ofList ['-', c])
    if s.takesValue then
      if !rest.isEmpty then pure ([(s, some (String.ofList rest))], false)
      else match next with
        | some (.plain text) => pure ([(s, some text)], true)
        | _ => none
    else if rest.isEmpty then pure ([(s, none)], false)
    else
      let (more, used) ← joined? next rest
      pure ((s, none) :: more, used)

def settings? (next : Option Word) (s : Switch) (isShort : Bool) :
    Option (List Char) → Option (List Setting × Bool)
  | none =>
    if s.takesValue then
      match next with
      | some (.plain text) => some ([(s, some text)], true)
      | _ => none
    else some ([(s, none)], false)
  | some attached =>
    if s.takesValue then some ([(s, some (String.ofList attached))], false)
    else if isShort then
      (joined? next attached).map fun (more, used) => ((s, none) :: more, used)
    else none

/-! ## The request -/

/-- What a run is asked to do. -/
structure Options where
  /-- The document, as it was named. -/
  schema : String
  /-- The file for the result. -/
  output : Option String
  validateOnly : Bool
  migration : Bool
  dialect : Option Dialect
  variant : Option Variant
  versionTag : String
  failOnWarnings : Bool
  timestamp : Bool
  verbose : Bool
  quiet : Bool
  deriving Repr

namespace Options

def blank : Options where
  schema := ""
  output := none
  validateOnly := false
  migration := false
  dialect := none
  variant := none
  versionTag := "1"
  failOnWarnings := false
  timestamp := false
  verbose := false
  quiet := false

end Options

/-- What the arguments ask for. -/
inductive Request where
  | help
  | version
  | run (o : Options)

/-- The options so far. -/
structure Progress where
  options : Options
  /-- Whether a document was named. -/
  hasSchema : Bool
  /-- Whether an argument belongs to no option. -/
  hasStray : Bool

/-- A step that goes on with the options or answers at once. -/
inductive Advance where
  | continue (p : Progress)
  | answer (r : Request)

namespace Progress

/-- Before any argument. -/
def start : Progress := ⟨.blank, false, false⟩

def updating (p : Progress) (f : Options → Options) : Advance :=
  .continue { p with options := f p.options }

/-- One more setting. A dialect and a variant have to exist. -/
def extended? (p : Progress) : Setting → Option Advance
  | (.help, _) => some (.answer .help)
  | (.version, _) => some (.answer .version)
  | (.schema, value) => some (.continue { p with
      options := { p.options with schema := value.getD "" }, hasSchema := true })
  | (.output, value) => some (p.updating fun o => { o with output := value })
  | (.validateOnly, _) => some (p.updating fun o => { o with validateOnly := true })
  | (.migration, _) => some (p.updating fun o => { o with migration := true })
  | (.dialect, value) => do
    let d ← Dialect.ofTag? (value.getD "")
    pure (p.updating fun o => { o with dialect := some d })
  | (.variant, value) => do
    let v ← Variant.ofTag? (value.getD "")
    pure (p.updating fun o => { o with variant := some v })
  | (.versionTag, value) =>
    some (p.updating fun o => { o with versionTag := value.getD "" })
  | (.failOnWarnings, _) => some (p.updating fun o => { o with failOnWarnings := true })
  | (.timestamp, _) => some (p.updating fun o => { o with timestamp := true })
  | (.verbose, _) => some (p.updating fun o => { o with verbose := true })
  | (.quiet, _) => some (p.updating fun o => { o with quiet := true })

/-- Settings in turn, up to one that answers at once. -/
def extendedAll? (p : Progress) : List Setting → Option Advance
  | [] => some (.continue p)
  | s :: rest => do
    match ← p.extended? s with
    | .continue p => extendedAll? p rest
    | answer => pure answer

/-- What is asked for when no argument is left: a document has to be
named, and every argument has to belong to an option. -/
def finish? (p : Progress) : Option Request :=
  if p.hasSchema && !p.hasStray then some (.run p.options) else none

/-- The words in turn. The flag says that the next word was used as a
value already. -/
def words? (p : Progress) : Bool → List Word → Option Request
  | _, [] => p.finish?
  | true, _ :: rest => words? p false rest
  | false, .named s isShort attached :: rest => do
    let (settings, used) ← settings? rest.head? s isShort attached
    match ← p.extendedAll? settings with
    | .answer r => pure r
    | .continue p => words? p used rest
  | false, _ :: rest => words? { p with hasStray := true } false rest

end Progress

/-- What the arguments ask for, if they ask for something. -/
def Request.ofArguments? (arguments : List String) : Option Request := do
  Progress.start.words? false (← wordsOf? arguments)

end Polyschema.CommandLine
