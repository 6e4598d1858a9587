import FlagState.Arm
import FlagState.Sink

/-!
The listing of a run in one of two layouts: the arms alone, or a function around them.
-/
namespace FlagState

inductive Layout where
  | entries | function
  deriving DecidableEq, Repr

namespace Layout

def default : Layout := entries

def name : Layout → Text
  | entries => "entries"
  | function => "function"

def ofName? (t : Text) : Option Layout :=
  if t = entries.name then some entries
  else if t = function.name then some function
  else none

/-- Takes the letters from a to z for the same in upper and lower case. -/
def ofNameIgnoringCase? (t : Text) : Option Layout := ofName? (t.map Char.toLower)

theorem ofName?_eq_some_iff {t : Text} {l : Layout} : ofName? t = some l ↔ t = l.name := by
  constructor
  · intro h
    unfold ofName? at h
    split at h
    · next h' => simp_all
    · split at h
      · next h' => simp_all
      · simp at h
  · rintro rfl
    cases l <;> decide

/-- What stands before the arms. -/
def header (functionName : Text) : Layout → Text
  | entries => []
  | function =>
    "/// Decode ISO 3166 country code from the MID part of an MMSI.\n" ++
    "pub fn " ++ functionName ++ "(mid: u32) -> Option<&'static str> \x7b\n" ++
    "    match mid \x7b\n"

/-- What stands behind the arms. -/
def footer : Layout → Text
  | entries => []
  | function => "        _ => None,\n    \x7d\n\x7d\n"

end Layout

structure Listing where
  sink : Sink
  layout : Layout
  functionName : Text

namespace Listing

def defaultFunctionName : Text := "mid_to_country"

def into (sink : Sink) (layout : Layout) : Listing := ⟨sink, layout, defaultFunctionName⟩

def withFunctionName (l : Listing) (name : Text) : Listing := { l with functionName := name }

/-- Tells, as all writing steps do, whether the whole text had room. -/
def write (l : Listing) (t : Text) : Listing × Bool :=
  let (sink, complete) := l.sink.write t
  ({ l with sink }, complete)

def flush (l : Listing) : Listing := { l with sink := l.sink.flush }

def writeHeader (l : Listing) : Listing × Bool := l.write (l.layout.header l.functionName)

def writeArm (l : Listing) (a : Arm) : Listing × Bool := l.write (a.text ++ ['\n'])

/-- The sink is flushed only behind a whole footer. -/
def writeFooter (l : Listing) : Listing × Bool :=
  match l.write l.layout.footer with
  | (l, true) => (l.flush, true)
  | (l, false) => (l, false)

/-- The steps that write a listing, in whatever order they come. -/
inductive Step where
  | functionName (name : Text)
  | header
  | arm (a : Arm)
  | footer
  | flush
  deriving DecidableEq, Repr

def step (l : Listing) : Step → Listing × Bool
  | .functionName name => (l.withFunctionName name, true)
  | .header => l.writeHeader
  | .arm a => l.writeArm a
  | .footer => l.writeFooter
  | .flush => (l.flush, true)

/-- The listing after each step, and whether the step was complete; a failed step ends nothing. -/
def steps (l : Listing) : List Step → List (Listing × Bool)
  | [] => []
  | s :: rest => l.step s :: steps (l.step s).1 rest

end Listing
end FlagState
