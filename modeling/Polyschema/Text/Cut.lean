/-
Polyschema.Text.Cut — texts cut at a separator.

* `cut?` — what stands before and after it.
* `afterFirst`, `beforeFirst` — one side, or all when it is not there.
* `pieces` — all that stands between the places of one character.
-/

namespace Polyschema.Text

/-- What stands before and after the first place of a separator. -/
def cutChars? (separator : List Char) : List Char → Option (List Char × List Char)
  | [] => if separator.isEmpty then some ([], []) else none
  | c :: rest =>
    if separator.isPrefixOf (c :: rest) then
      some ([], (c :: rest).drop separator.length)
    else (cutChars? separator rest).map fun (before, after) => (c :: before, after)

/-- What stands before and after the first place of a separator. -/
def cut? (separator s : String) : Option (String × String) :=
  (cutChars? separator.toList s.toList).map fun (before, after) =>
    (String.ofList before, String.ofList after)

/-- A text cut in two; without the separator the second part is empty. -/
def cut (separator s : String) : String × String := (cut? separator s).getD (s, "")

/-- What stands after the first separator, or all. -/
def afterFirst (separator s : String) : String :=
  match cut? separator s with
  | some (_, after) => after
  | none => s

/-- What stands before the first separator, or all. -/
def beforeFirst (separator s : String) : String := (cut separator s).1

def pieces (separator : Char) : List Char → List (List Char)
  | [] => [[]]
  | c :: rest =>
    if c = separator then [] :: pieces separator rest
    else match pieces separator rest with
      | [] => [[c]]
      | piece :: more => (c :: piece) :: more

/-- What stands after an opening, or all when the text does not begin
with it. -/
def dropOpening (opening s : String) : String :=
  if opening.toList.isPrefixOf s.toList then
    String.ofList (s.toList.drop opening.toList.length)
  else s

end Polyschema.Text
