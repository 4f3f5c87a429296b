/-
Polyschema.Files.Folder — the root folder with all files and folders.

* `Folder.status` — what stands at a path, for one who is somewhere.
* `Folder.write` — a text put into a file; the folders on the way are
  made.

A file may be written at once or be put in place when it is complete.
The second way puts it under a temporary name first, and where a folder
has its name it stays under that name in that folder.
-/
import Polyschema.Entries
import Polyschema.Fault
import Polyschema.Files.Path

namespace Polyschema

/-- The root folder: the texts of the files below it and the folders below
it that may hold no file, each with the names on the way. -/
structure Folder where
  files : List (List String × String)
  folders : List (List String)

/-- What stands at a path. -/
inductive FileStatus where
  | absent
  | file (text : String)
  | folder
  deriving DecidableEq, Repr

namespace Folder

def empty : Folder := ⟨[], []⟩

/-- What stands at the end of a way without any step back. -/
def at? (f : Folder) (way : List String) : FileStatus :=
  match f.files.lookup way with
  | some text => .file text
  | none =>
    if way.isEmpty || f.folders.any (way.isPrefixOf ·) ||
        f.files.any fun entry => way.isPrefixOf entry.1 then .folder
    else .absent

/-- The greatest size of a name in bytes. -/
def nameLimit : Nat := 255

/-- Whether a name is not too long, with some bytes added to it. -/
def fits (added : Nat) (name : String) : Bool := name.utf8ByteSize + added ≤ nameLimit

/-- Goes down some names. Only from a folder can one go on. -/
def walk (f : Folder) (way : List String) : List String → Except FileFault (List String)
  | [] => .ok way
  | name :: rest =>
    match f.at? way with
    | .file _ => .error .notDirectory
    | .absent => .error .absent
    | .folder =>
      if fits 0 name then walk f (Path.follow way name) rest else .error .badName

/-- What stands at a path for one who is at `home`. What cannot be reached
is absent, but a name that is too long is an error. -/
def status (f : Folder) (home : List String) (p : Path) : Except FileFault FileStatus :=
  match f.walk (p.start home) p.names with
  | .ok way => .ok (f.at? way)
  | .error .badName => .error .badName
  | .error _ => .ok .absent

/-- Makes the folders on a way that are not there. -/
def withFolders (f : Folder) (way : List String) :
    List String → Except FileFault (Folder × List String)
  | [] => .ok (f, way)
  | name :: rest =>
    let next := Path.follow way name
    if !fits 0 name then .error .badName
    else match f.at? next with
      | .folder => withFolders f next rest
      | .absent => withFolders { f with folders := next :: f.folders } next rest
      | .file _ => .error (if rest.isEmpty then .present else .notDirectory)

def put (f : Folder) (way : List String) (text : String) : Folder :=
  { f with files := putEntry way text f.files }

/-- The name of a file before it is put in place. -/
def temporaryName (name : String) : String := "." ++ name ++ ".00000000.tmp"

/-- The folder after one who is at `home` wrote a text to a path. -/
def write (f : Folder) (home : List String) (p : Path) (text : String)
    (whenComplete : Bool) : Except FileFault Folder := do
  let (f, way) ← f.withFolders (p.start home) p.parent.names
  let target := if p.names.isEmpty then way else Path.follow way p.name
  if whenComplete then
    let temporary := temporaryName p.name
    if !fits 0 temporary then throw .badName
    match f.at? target with
    | .folder => pure (f.put (target ++ [temporary]) text)
    | _ => pure (f.put target text)
  else
    if !fits 0 p.name then throw .badName
    match f.at? target with
    | .folder => throw .isDirectory
    | _ => pure (f.put target text)

/-- The root folder with texts under their names at `home`. A name with a
slash at its end is that of a folder. -/
def ofNames (home : List String) (named : List (String × String)) : Folder :=
  named.foldl (fun f (name, text) =>
    let way := ((Path.ofText name).resolved home).names
    if name.toList.getLast? = some '/' then { f with folders := way :: f.folders }
    else f.put way text) ⟨[], [home]⟩

/-- The files below `home` with their paths from there. -/
def named (home : List String) (f : Folder) : List (String × String) :=
  (f.files.filter fun (way, _) => home.isPrefixOf way).map fun (way, text) =>
    ("/".intercalate (way.drop home.length), text)

def changedSince (old f : Folder) : Folder :=
  { f with files := f.files.filter fun (way, text) => old.files.lookup way != some text }

end Folder

end Polyschema
