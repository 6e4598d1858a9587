import FlagState.Proofs.Generation.Diagnostics
import FlagState.Proofs.Journal

/-!
A run notes what it does as it does it: an arm is counted when all of its line is stored, and the last notes
tell how the run ended (`notable_run`). Counters, events, report and stored bytes thus give the same account.
-/
namespace FlagState
namespace Arm

/-- The arms whose lines, line feeds included, are whole in `bytes`, where `header` comes before them. -/
def whole (bytes : List UInt8) (header : Text) (as : List Arm) : List Arm :=
  (as.zipIdx.filter fun p => (header ++ lines (as.take (p.2 + 1))).utf8 <+: bytes).map Prod.fst

variable {bytes : List UInt8} {header : Text} {a : Arm}

end Arm

namespace Listing

end Listing

namespace Generation

/-- The notes on an unknown country that ends a run. -/
def unmatchedNotes : Except Failure Report → Journal
  | .error (.unmatched a) => [.count .unmatchedCountries, .event (.unmatched a.mid a.country)]
  | _ => []

section Run

variable {tables : Tables} {l : Listing} {diagnostics : Sink}

variable (tables l diagnostics)

/-- The notes on the end of a run. -/
def ending : Except Failure Report → Journal
  | .ok r => [.event (.generated r.total r.suppressed)]
  | .error f => unmatchedNotes (.error f)

variable {tables l diagnostics}

end Run
end Generation
end FlagState
