/-
Polyschema.Text.Lines — texts put together from pieces, and how many
lines they have.
-/

namespace Polyschema.Text

/-- The pieces with a comma and a space between each two. -/
def commas (pieces : List String) : String := ", ".intercalate pieces

/-- The pieces as lines of one text, without a final line feed. -/
def lines (pieces : List String) : String := "\n".intercalate pieces

def paragraphs (pieces : List String) : String := "\n\n".intercalate pieces

/-- How many lines a text has; a final line feed opens no further one. -/
def countLines (s : String) : Nat :=
  let cs := s.toList
  cs.count '\n' + if cs.getLast?.all (· == '\n') then 0 else 1

/-- A number with a comma before each three digits, counted from the
right. -/
def grouped (number : Nat) : String :=
  let rec split : List Char → List Char
    | a :: b :: c :: d :: rest => a :: b :: c :: ',' :: split (d :: rest)
    | short => short
  String.ofList (split (toString number).toList.reverse).reverse

/-- The text filled with blanks at its end up to a width. -/
def padRight (width : Nat) (s : String) : String :=
  s ++ String.ofList (List.replicate (width - s.length) ' ')

def replaceChar (old new : Char) (s : String) : String :=
  String.ofList (s.toList.map fun c => if c = old then new else c)

end Polyschema.Text
