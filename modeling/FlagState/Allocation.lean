import FlagState.Journal
import FlagState.Text.Blank
import FlagState.Text.Digit

/-!
Allocations of maritime identification digits. A row is three digits, blanks and a country; every other
line separates rows and is passed over without a note.
-/
namespace FlagState

structure Allocation where
  mid : Text
  country : Text
  deriving DecidableEq, Repr

namespace Allocation

/-- The row as tables publish it. -/
def row (a : Allocation) : Text := a.mid ++ '\t' :: a.country

/-- The country is all that follows the blanks, blanks at its end included. -/
def ofLine? : Text → Option Allocation
  | a :: b :: c :: rest =>
    if Text.isDigit a && Text.isDigit b && Text.isDigit c then
      match Text.afterBlanks? rest with
      | some country => if '\n' ∈ country then none else some ⟨[a, b, c], country⟩
      | none => none
    else none
  | _ => none

def ofLines (lines : List Text) : List Allocation := lines.filterMap ofLine?

/-- The allocations of a table in its order. -/
def ofTable (table : Text) : Noted (List Allocation) := do
  let allocations := ofLines (Text.lines table)
  Noted.event (.allocationsRead allocations.length)
  return allocations

end Allocation
end FlagState
