/-
Polyschema.Text.Name — names of tables and columns.

* `isIdentifier`, `isReserved` — what a name must be, and what it had
  better not be, to stand unquoted in SQL.
* `words` — the words of a name in any casing style.
* `camel`, `pascal`, `plural` — the derived names.
-/
import Polyschema.Text.Case

namespace Polyschema.Text

/-! ## Identifiers -/

def opensName (c : Char) : Bool := c.isAlpha || c == '_'

def continuesName (c : Char) : Bool := c.isAlphanum || c == '_'

/-- An identifier, with at most one line feed after it. -/
def isIdentifierChars : List Char → Bool
  | [] => false
  | c :: rest =>
    opensName c &&
      match rest.dropWhile continuesName with
      | [] => true
      | tail => tail == ['\n']

/-- A name that can stand unquoted for a table or a column. One line
feed at the end is let through. -/
def isIdentifier (name : String) : Bool := isIdentifierChars name.toList

/-- Words that at least one of the SQL variants wants quoted. -/
def reservedWords : List String := [
  "all", "alter", "and", "as", "asc", "between", "by", "case", "check",
  "column", "constraint", "create", "cross", "default", "delete", "desc",
  "distinct", "drop", "else", "end", "exists", "foreign", "from", "full",
  "group", "having", "in", "index", "inner", "insert", "into", "is",
  "join", "key", "left", "like", "limit", "not", "null", "offset", "on",
  "or", "order", "outer", "primary", "references", "right", "select",
  "set", "table", "then", "to", "union", "unique", "update", "user",
  "using", "values", "when", "where", "with"]

def isReserved (name : String) : Bool := reservedWords.contains (lower name)

/-! ## Words of a name -/

/-- Whether a character of a name belongs to the same word as the
characters right after it. Digits and small letters go together with
their like; a capital opens a word of small letters, and of a run of
capitals before small letters the last one opens the next word. -/
def joinsNext (c : Char) : List Char → Bool
  | [] => false
  | d :: rest =>
    if c.isDigit then d.isDigit
    else if c.isLower then d.isLower
    else d.isLower || (d.isUpper && !(rest.head?.any Char.isLower))

/-- Puts a character in front of the first word. -/
def attach (c : Char) : List (List Char) → List (List Char)
  | [] => [[c]]
  | word :: rest => (c :: word) :: rest

/-- The words of a text in their own casing. Characters that are no
ASCII letters or digits only part words. -/
def casedWords : List Char → List (List Char)
  | [] => []
  | c :: rest =>
    if c.isAlphanum then
      if joinsNext c rest then attach c (casedWords rest)
      else [c] :: casedWords rest
    else casedWords rest

def words (name : String) : List (List Char) :=
  (casedWords name.toList).map (·.map Char.toLower)

/-- A word with its first letter made a capital. -/
def capitalized : List Char → List Char
  | [] => []
  | c :: rest => c.toUpper :: rest

/-- The name as one word whose inner words open with a capital. -/
def camel (name : String) : String :=
  match words name with
  | [] => ""
  | first :: rest => String.ofList (first ++ (rest.map capitalized).flatten)

/-- The name as one word whose words all open with a capital. -/
def pascal (name : String) : String :=
  String.ofList ((words name).map capitalized).flatten

/-! ## Plurals -/

/-- Nouns whose plural no rule gives. -/
def irregularPlurals : List (String × String) := [
  ("person", "people"), ("child", "children"), ("datum", "data"),
  ("index", "indices"), ("status", "statuses"), ("address", "addresses")]

/-- Whether a text, given by its characters in reverse, ends so. -/
def endsIn (reversed : List Char) (ending : String) : Bool :=
  ending.toList.reverse.isPrefixOf reversed

/-- The plural of a noun, good enough for the name of a table. -/
def plural (name : String) : String :=
  match name.toList with
  | [] => ""
  | first :: _ =>
    let small := lower name
    let reversed := small.toList.reverse
    match irregularPlurals.lookup small with
    | some form =>
      if first.isUpper then String.ofList (capitalized form.toList) else form
    | none =>
      if ["sh", "ch", "x", "z", "ss"].any (endsIn reversed) then name ++ "es"
      else if endsIn reversed "y" && 1 < name.length &&
          !(reversed.drop 1).head?.any "aeiou".toList.contains then
        String.ofList name.toList.dropLast ++ "ies"
      else if endsIn reversed "s" then name
      else name ++ "s"

end Polyschema.Text
