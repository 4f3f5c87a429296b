/-
Polyschema.Document.File — documents in files.

* `Reader` — a reader of YAML, which is somebody else's.
* `Format` — JSON and YAML; the extension of a file tells them apart.
* `Document.data` — the raw data in the text of a file.
* `Document.dataAt` — the same for what stands at a path.

A file with another extension may hold either: it is YAML if it is not
JSON.
-/
import Polyschema.Document.Build
import Polyschema.Files.Folder
import Polyschema.Value.JsonReader

namespace Polyschema

open Polyschema.Text

abbrev Reader := String → Except ReadFault Value

/-- A format of documents. -/
inductive Format where
  | json
  | yaml
  deriving DecidableEq, Repr

namespace Format

/-- The format that an extension stands for, whatever its casing. -/
def ofExtension? (extension : String) : Option Format :=
  match lower extension with
  | ".json" => some json
  | ".yaml" | ".yml" => some yaml
  | _ => none

/-- The value that a text writes; `path` is where it was found. -/
def value (reader : Reader) (path text : String) : Format → Except Fault Value
  | json => match Value.ofJson? text with
    | some v => .ok v
    | none => .error (.refused (.badJson path))
  | yaml => match reader text with
    | .ok v => .ok v
    | .error .malformed => .error (.refused (.badYaml path))
    | .error (.other f) => .error f

/-- How it is put that a text holds something else than a mapping. -/
def noMapping (kind : String) : Format → Refusal
  | json => .notAnObject kind
  | yaml => .notAMapping kind

def mapping (reader : Reader) (path text : String) (f : Format) : Except Fault Value := do
  match ← f.value reader path text with
  | .dict entries => .ok (.dict entries)
  | v => .error (.refused (f.noMapping v.typeName))

end Format

namespace Document

variable (reader : Reader)

def data (path extension text : String) : Noted Event Value :=
  match Format.ofExtension? extension with
  | some f => .ofExcept (f.mapping reader path text)
  | none => do
    .note (.unknownExtension (lower extension))
    match Format.json.mapping reader path text with
    | .ok v => pure v
    | .error _ => .ofExcept (Format.yaml.mapping reader path text)

/-- The raw data at a place where something stands, or not. -/
def dataAt (path extension : String) : FileStatus → Noted Event Value
  | .absent => .fail (.file .absent)
  | .folder => .fail (.refused (.notAFile path))
  | .file text => data reader path extension text

def dataIn (f : Folder) (home : List String) (p : Path) : Noted Event Value := do
  dataAt reader p.text p.extension (← .ofExcept ((f.status home p).mapError .file))

def load (path extension : String) (found : FileStatus) :
    Noted Event (List Entity × Config) := do
  read (.data (← dataAt reader path extension found))

end Document

end Polyschema
