import FlagState.Failure
import FlagState.Listing
import FlagState.Matching
import FlagState.Tables

/-!
A run: the tables are respelt and read, misread country rows are reported, and every arm is written as
soon as its allocation is matched, so that arms before a failure stay written.
-/
namespace FlagState

structure Report where
  active : Nat
  suppressed : Nat
  misreadings : List Country.Misreading
  deriving DecidableEq, Repr

namespace Report

def total (r : Report) : Nat := r.active + r.suppressed

def add (r : Report) (a : Arm) : Report :=
  if a.suppressed then { r with suppressed := r.suppressed + 1 }
  else { r with active := r.active + 1 }

end Report

/-- How a run ended and what it left behind. -/
structure Run where
  outcome : Except Failure Report
  listing : Listing
  diagnostics : Sink

namespace Generation

/-- Writes the arms and the footer. An unknown country flushes the listing and ends the run; a listing
without room ends it at once. -/
def emit (l : Listing) (r : Report) : List Answer → Noted (Listing × Except Failure Report)
  | [] =>
    match l.writeFooter with
    | (l, true) => return (l, .ok r)
    | (l, false) => return (l, .error (.io .full))
  | .error a :: _ => do
    Answer.note (.error a)
    return (l.flush, .error (.unmatched a))
  | .ok a :: answers =>
    match l.writeArm a with
    | (l, true) => do
      Noted.count a.counter
      emit l (r.add a) answers
    | (l, false) => return (l, .error (.io .full))

/-- One line for each misread row. -/
def diagnose (sink : Sink) (misreadings : List Country.Misreading) : Sink × Bool :=
  sink.writeAll (misreadings.map fun m => m.message ++ ['\n'])

def run (tables : Tables) (l : Listing) (diagnostics : Sink) : Noted Run := do
  let respelt ← tables.respelt
  let (index, misreadings) ← Country.Index.ofTable respelt.countries
  match diagnose diagnostics misreadings with
  | (diagnostics, false) => return ⟨.error (.io .full), l, diagnostics⟩
  | (diagnostics, true) =>
    let allocations ← Allocation.ofTable respelt.allocations
    Noted.event (.matching allocations.length index.size)
    match l.writeHeader with
    | (l, false) => return ⟨.error (.io .full), l, diagnostics⟩
    | (l, true) =>
      let answers := (Matching.start index allocations).answers
      let (l, outcome) ← emit l ⟨0, 0, misreadings⟩ answers
      if let .ok r := outcome then Noted.event (.generated r.total r.suppressed)
      return ⟨outcome, l, diagnostics⟩

/-- Outcomes of `n` runs over the same tables, each into what the one before left behind. -/
def runs (tables : Tables) : Nat → Listing → Sink → Noted (List (Except Failure Report) × Listing × Sink)
  | 0, l, diagnostics => return ([], l, diagnostics)
  | n + 1, l, diagnostics => do
    let first ← run tables l diagnostics
    let (outcomes, l, diagnostics) ← runs tables n first.listing first.diagnostics
    return (first.outcome :: outcomes, l, diagnostics)

end Generation
end FlagState
