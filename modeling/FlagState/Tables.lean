import FlagState.Allocation.Published
import FlagState.Country.Published
import FlagState.Spelling.Shipped

/-!
The two tables of a run, as published or given, and with their spellings brought together.
-/
namespace FlagState

structure Tables where
  allocations : Text
  countries : Text

namespace Tables

def published : Tables := ⟨Allocation.publishedTable, Country.publishedTable⟩

/-- Each supplementary row follows on a line of its own. -/
def withSupplement (countries : Text) : Text :=
  Spelling.supplement.foldl (fun t line => t ++ '\n' :: line) countries

/-- Both tables respelt by their rule sets, the country table with its supplement. -/
def respelt (t : Tables) : Noted Tables := do
  let allocations ← Spelling.allocationRules.respell t.allocations
  let countries ← Spelling.countryRules.respell t.countries
  return ⟨allocations, withSupplement countries⟩

end Tables
end FlagState
