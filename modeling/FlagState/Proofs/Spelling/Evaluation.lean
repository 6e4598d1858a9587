import FlagState.Spelling.Shipped

/-!
The shipped rules letter by letter. A proof that computes with them first rewrites with these equations, so
that their string literals, which are slow to take apart, are taken apart once.
-/
namespace FlagState.Spelling

/-- The rules are found by the proof: it takes the literals apart and leaves the rest as it stands. -/
def evaluatedAllocationRules : { s : RuleSet // allocationRules = s } :=
  ⟨_, by unfold allocationRules; simp -index only [String.toList_ofList]; rfl⟩

theorem allocationRules_eq_evaluated : allocationRules = evaluatedAllocationRules.val :=
  evaluatedAllocationRules.property

def evaluatedCountryRules : { s : RuleSet // countryRules = s } :=
  ⟨_, by unfold countryRules; simp -index only [String.toList_ofList]; rfl⟩

theorem countryRules_eq_evaluated : countryRules = evaluatedCountryRules.val :=
  evaluatedCountryRules.property

def evaluatedSupplement : { rows : List Text // supplement = rows } :=
  ⟨_, by unfold supplement; simp -index only [String.toList_ofList]; rfl⟩

theorem supplement_eq_evaluated : supplement = evaluatedSupplement.val := evaluatedSupplement.property

end FlagState.Spelling
