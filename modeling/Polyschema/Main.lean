/-
Polyschema.Main — the program.

It looks up what stands at the path of the document, has the run planned
and carries out the plan; whatever is decided is decided there.
-/
import Std.Time.DateTime.Timestamp
import Polyschema.Calendar.Epoch
import Polyschema.CommandLine.Run
import Polyschema.Yaml.Read

namespace Polyschema.Main

open Polyschema.CommandLine

def statusAt (path : String) : IO FileStatus := do
  try
    pure (.file (← IO.FS.readFile path))
  catch
    | .noFileOrDirectory .. => pure .absent
    | _ => pure .folder

/-- A text written to a file whose folders are made first. -/
def writeAt (p : Path) (text : String) : IO Unit := do
  IO.FS.createDirAll p.parent.text
  IO.FS.writeFile p.text text

def perform (o : Options) : Effect → IO Unit
  | .log e =>
    if o.logs e then IO.eprintln s!"{e.level.capitals} {e.source}: {e.message}"
    else pure ()
  | .print text => IO.print text
  | .report text => IO.eprint text
  | .write p text => writeAt p text

def now : IO Calendar.Timestamp := do
  let t ← Std.Time.Timestamp.now
  let seconds := t.toSecondsSinceUnixEpoch.val.toNat
  match Calendar.Timestamp.ofEpoch? (seconds * 1000000) with
  | some t => pure t
  | none => throw (IO.userError "the clock is out of range")

def run (o : Options) : IO UInt32 := do
  let home := (Path.ofText ((← IO.getEnv "PWD").getD "/")).names
  let p := (Path.ofText o.schema).resolved home
  let work := plan Value.ofYaml o home (← now) p (← statusAt p.text)
  work.notes.forM (perform o)
  match work.outcome with
  | .ok ending => pure (UInt32.ofNat ending.code)
  | .error f =>
    IO.eprintln (f.ownMessage?.getD "the document cannot be compiled")
    pure 1

def answer (arguments : List String) : IO UInt32 := do
  match Request.ofArguments? arguments with
  | none =>
    IO.eprint usageText
    pure (UInt32.ofNat Ending.misused.code)
  | some .help => do
    IO.print usageText
    pure 0
  | some .version => do
    IO.print versionText
    pure 0
  | some (.run o) => run o

end Polyschema.Main

def main (arguments : List String) : IO UInt32 := Polyschema.Main.answer arguments
