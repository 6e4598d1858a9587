import FlagState.Failure

/-!
A tree of directories and files with a working directory. Paths are read as text: empty pieces and `.`
stay where they are, `..` goes up, and every place that is passed through has to be a directory.
-/
namespace FlagState

inductive Entry where
  | file (content : List UInt8)
  | directory
  deriving DecidableEq, Repr

/-- A place in the tree: the names from the root down. -/
abbrev Place := List Text

structure FileSystem where
  /-- The root itself is not listed; it is a directory. -/
  entries : List (Place × Entry)
  workingDirectory : Place

namespace FileSystem

def entry? (fs : FileSystem) (p : Place) : Option Entry :=
  if p.isEmpty then some .directory else fs.entries.lookup p

def isDirectory (fs : FileSystem) (p : Place) : Bool := fs.entry? p = some .directory

/-- Puts an entry in the place of what stood there. -/
def put (fs : FileSystem) (p : Place) (e : Entry) : FileSystem :=
  { fs with entries := (p, e) :: fs.entries.filter (·.1 ≠ p) }

/-- One step of a walk. -/
def enter (fs : FileSystem) (p : Place) (name : Text) : Except IoFault Place :=
  if !fs.isDirectory p then .error .notDirectory
  else if name = "." then .ok p
  else if name = ".." then .ok p.dropLast
  else if (fs.entry? (p ++ [name])).isNone then .error .missing
  else .ok (p ++ [name])

def names (path : Text) : List Text := (path.splitOn '/').filter (!·.isEmpty)

/-- A path that begins with a slash starts at the root. -/
def origin (fs : FileSystem) (path : Text) : Place :=
  if path.head? = some '/' then [] else fs.workingDirectory

/-- Whether a path ends in a slash, so that it can only mean a directory. -/
def endsInSlash (path : Text) : Bool := path.getLast? = some '/'

/-- The place of something that is there. -/
def find (fs : FileSystem) (path : Text) : Except IoFault Place :=
  if path.isEmpty then .error .missing
  else do
    let p ← (names path).foldlM fs.enter (fs.origin path)
    if endsInSlash path && !fs.isDirectory p then .error .notDirectory
    else .ok p

def read (fs : FileSystem) (path : Text) : Except IoFault (List UInt8) := do
  match fs.entry? (← fs.find path) with
  | some (.file content) => .ok content
  | some .directory => .error .isDirectory
  | none => .error .missing

def readText (fs : FileSystem) (path : Text) : Except IoFault Text := do
  match Text.ofUtf8? (← fs.read path) with
  | some t => .ok t
  | none => .error .notText

def isFile (fs : FileSystem) (path : Text) : Bool := (fs.read path).isOk

/-- The place of a file that is there or could be made. Only what lies where in the tree stands against it:
permissions, the length of names and the characters in them are not looked at. -/
def fileToWrite (fs : FileSystem) (path : Text) : Except IoFault Place :=
  if path.isEmpty then .error .missing
  else
    match (names path).getLast? with
    | none => .error .isDirectory
    | some name => do
      let p ← (names path).dropLast.foldlM fs.enter (fs.origin path)
      if !fs.isDirectory p then .error .notDirectory
      else if endsInSlash path || name = "." || name = ".." || fs.isDirectory (p ++ [name]) then
        .error .isDirectory
      else .ok (p ++ [name])

/-- Makes the directories of a path that are not there. Ends where a file is in the way; the place is
that of the last directory, if the walk came so far. -/
def makeDirectories (fs : FileSystem) (path : Text) : FileSystem × Option Place :=
  go fs (fs.origin path) (names path)
where
  go (fs : FileSystem) (p : Place) : List Text → FileSystem × Option Place
    | [] => (fs, some p)
    | name :: rest =>
      match fs.enter p name with
      | .ok q => if fs.isDirectory q then go fs q rest else (fs, none)
      | .error .missing => go (fs.put (p ++ [name]) .directory) (p ++ [name]) rest
      | .error _ => (fs, none)

/-- The entries that differ from what stood in their places before. -/
def newEntries (before after : FileSystem) : List (Place × Entry) :=
  after.entries.filter fun (p, e) => before.entry? p ≠ some e

/-- The new files below the working directory, under the names by which they are reached from there. -/
def changes (before after : FileSystem) : List (Text × List UInt8) :=
  (newEntries before after).filterMap fun (p, e) =>
    match e with
    | .directory => none
    | .file content =>
      if after.workingDirectory.isPrefixOf p then
        some (Text.join '/' (p.drop after.workingDirectory.length), content)
      else none

end FileSystem
end FlagState
