/-
Polyschema.Files.Path — names of files.

* `Path.ofText`, `Path.text` — a path is the names on the way to a file.
* `Path.name`, `Path.extension` — the last name and what follows its
  last point.
* `Path.resolved` — the same place seen from the root.
-/
import Polyschema.Text.Cut

namespace Polyschema

open Polyschema.Text

/-- The way to a file, from the root or from where one is. -/
structure Path where
  isAbsolute : Bool
  /-- The names on the way. -/
  names : List String
  deriving DecidableEq, Repr

namespace Path

/-- A path as it is written. Empty names and single points lead
nowhere. -/
def ofText (s : String) : Path where
  isAbsolute := s.toList.head? == some '/'
  names := ((pieces '/' s.toList).map String.ofList).filter fun n => n != "" && n != "."

def text (p : Path) : String :=
  if p.isAbsolute then "/" ++ "/".intercalate p.names
  else if p.names.isEmpty then "."
  else "/".intercalate p.names

def name (p : Path) : String := p.names.getLast?.getD ""

def parent (p : Path) : Path := { p with names := p.names.dropLast }

/-- A name cut before its last point. A point at either end of a name
does not count. -/
def cutName (name : String) : String × String :=
  let reversed := name.toList.reverse
  let ending := reversed.takeWhile (· != '.')
  let stem := (reversed.dropWhile (· != '.')).drop 1
  if ending.isEmpty || stem.isEmpty || ending.length = reversed.length then (name, "")
  else (String.ofList stem.reverse, "." ++ String.ofList ending.reverse)

/-- What follows the last point of the last name, with that point. -/
def extension (p : Path) : String := (cutName p.name).2

/-- The path with another name before its extension, if it has a last
name. -/
def withExtension? (extension : String) (p : Path) : Option Path :=
  if p.names.isEmpty then none
  else some { p with names := p.names.dropLast ++ [(cutName p.name).1 ++ extension] }

/-- Where a path starts for one who is at `home`: there, or at the
root. -/
def start (home : List String) (p : Path) : List String :=
  if p.isAbsolute then [] else home

/-- One name further; two points lead back, but not beyond the root. -/
def follow (way : List String) (name : String) : List String :=
  if name = ".." then way.dropLast else way ++ [name]

/-- The way from the root to the same place, without any step back. -/
def resolved (home : List String) (p : Path) : Path where
  isAbsolute := true
  names := p.names.foldl follow (p.start home)

end Path

end Polyschema
