import FlagState.Calendar
import FlagState.Program
import Std.Time.DateTime.Timestamp

/-!
The command line program. It takes a picture of the files and variables that an invocation can use, runs the
invocation on it, and carries out what comes of it.
-/
namespace FlagState.Host

def realPath (p : Place) : String := String.ofList ('/' :: Text.join '/' p)

/-- Adds to a picture what stands along a path; of files only the content of those that are read. -/
def lookAlong (withContent : Bool) : List Text → Place → FileSystem → IO FileSystem
  | [], _, fs => return fs
  | name :: rest, p, fs => do
    if name = "." then lookAlong withContent rest p fs
    else if name = ".." then lookAlong withContent rest p.dropLast fs
    else
      let p := p ++ [name]
      let path := (← IO.currentDir) / realPath p
      if ← path.isDir then lookAlong withContent rest p (fs.put p .directory)
      else if ← path.pathExists then
        let content ← if withContent then IO.FS.readBinFile path else pure ByteArray.empty
        return fs.put p (.file content.toList)
      else return fs

def look (withContent : Bool) (fs : FileSystem) (path : Text) : IO FileSystem :=
  lookAlong withContent (FileSystem.names path) (fs.origin path) fs

/-- The files that are read before anything is written. -/
def settingsPaths (arguments : List Text) : List Text :=
  match Arguments.read arguments with
  | .ok (.generate o) => [o.settings.getD Settings.defaultFile]
  | _ => []

/-- The paths at which something may be made. -/
def outputPaths (fs : FileSystem) (arguments : List Text) : List Text :=
  match Arguments.read arguments with
  | .ok (.generate o) =>
    let directory := match Settings.load fs o.settings with
      | .ok s => s.logging.directory
      | .error _ => none
    o.output.toList ++ directory.toList
  | _ => []

def picture (arguments : List Text) : IO FileSystem := do
  let here := (← IO.currentDir).toString.toList
  let fs : FileSystem := ⟨[], FileSystem.names here⟩
  let fs ← (here :: Environment.candidates fs).foldlM (look true) fs
  let fs ← (settingsPaths arguments).foldlM (look true) fs
  (outputPaths fs arguments).foldlM (look false) fs

/-- The variables that matter, as far as they are set. -/
def environment (fs : FileSystem) : IO Variables := do
  let files := (Environment.candidates fs).filterMap fun path => (fs.readText path).toOption
  let names := Program.filterVariable :: files.flatMap Environment.possibleNames
  names.filterMapM fun name => do
    if name.isEmpty then return none
    else return (← IO.getEnv (String.ofList name)).map fun value => (name, value.toList)

/-- Directories are older than what is in them and come last in the list of entries. -/
def carryOut (before after : FileSystem) : IO Unit :=
  (before.newEntries after).reverse.forM fun (p, e) =>
    match e with
    | .directory => IO.FS.createDirAll (realPath p)
    | .file content => IO.FS.writeBinFile (realPath p) ⟨content.toArray⟩

def microseconds : IO Nat := do
  return (← Std.Time.Timestamp.now).toNanosecondsSinceUnixEpoch.val.toNat / 1000

def keepLog (now : Nat) (log : LogFile) : IO Unit := do
  IO.FS.withFile (realPath (Program.logPlace log (Text.dateAt now))) .append fun handle =>
    handle.putStr (String.ofList (Program.logText log (Text.timeAt now)))

def remarkText (now : Nat) : Remark → Text
  | .event e => Text.timeAt now ++ ' ' :: e.line ++ ['\n']
  | .text t => t

def run (arguments : List Text) : IO UInt32 := do
  let before ← picture arguments
  let outcome := Program.run ⟨arguments, ← environment before, before⟩
  let now ← microseconds
  carryOut before outcome.files
  outcome.log.forM (keepLog now)
  (← IO.getStderr).putStr (String.ofList (outcome.remarks.flatMap (remarkText now)))
  let output ← IO.getStdout
  output.write ⟨outcome.output.toArray⟩
  output.flush
  return outcome.code.toUInt32

end FlagState.Host

def main (arguments : List String) : IO UInt32 :=
  FlagState.Host.run (arguments.map String.toList)
