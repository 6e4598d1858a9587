import FlagState.FileSystem
import FlagState.Generation

/-!
Where a listing goes: standard output, or a file that is made or emptied before the run. A file ends up
with the bytes of the listing, also when the run fails.
-/
namespace FlagState

inductive Destination where
  | standardOutput
  | file (path : Text)
  deriving DecidableEq, Repr

namespace Destination

def ofPath? : Option Text → Destination
  | none => standardOutput
  | some path => file path

/-- A destination ready to be written to; standard output has no place among the files. -/
structure Prepared where
  files : FileSystem
  place : Option Place

def prepare (fs : FileSystem) : Destination → Noted (Except IoFault Prepared)
  | standardOutput => return .ok ⟨fs, none⟩
  | file path => do
    Noted.event (.writingTo path)
    return (fs.fileToWrite path).map fun p => ⟨fs.put p (.file []), some p⟩

/-- The files after a listing was written and the destination closed. -/
def Prepared.close (o : Prepared) (l : Listing) : FileSystem :=
  match o.place with
  | none => o.files
  | some p => o.files.put p (.file l.sink.contents)

/-- A run into a destination, which is closed behind it. One that cannot be opened ends it before it begins. -/
def deliver (tables : Tables) (layout : Layout) (functionName : Text) (fs : FileSystem) (d : Destination) :
    Noted (Except Failure Report × FileSystem) := do
  match ← d.prepare fs with
  | .error fault => return (.error (.io fault), fs)
  | .ok prepared =>
    let listing := (Listing.into (Sink.ofCapacity none) layout).withFunctionName functionName
    let run ← Generation.run tables listing (Sink.ofCapacity none)
    return (run.outcome, prepared.close run.listing)

end Destination
end FlagState
