import FlagState.Journal

/-!
The lines of a listing: match arms from digits to a country code.
-/
namespace FlagState

structure Arm where
  mid : Text
  alpha2 : Text
  country : Text
  /-- The digits are those of the arm before; the arm is commented out. -/
  suppressed : Bool
  deriving DecidableEq, Repr

namespace Arm

/-- Twelve spaces put the arm in line with the body of a match. -/
def indent : Text := "            "

def text (a : Arm) : Text :=
  (if a.suppressed then "//" else "") ++ indent ++ a.mid ++ " => Some(\"" ++ a.alpha2 ++
    "\"), // " ++ a.country

def counter (a : Arm) : Counter := if a.suppressed then .suppressedArms else .activeArms

end Arm
end FlagState
