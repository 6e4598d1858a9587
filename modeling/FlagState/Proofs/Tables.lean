import FlagState.Proofs.Spelling.Lines
import FlagState.Tables

/-!
Respelt tables line by line: every line stays where it was, and the supplementary rows come last.
-/
namespace FlagState.Tables

theorem lines_withSupplement (t : Text) :
    Text.lines (withSupplement t) = Text.lines t ++ Spelling.supplement := by
  have h : ∀ line ∈ Spelling.supplement, Text.lines line = [line] := by
    rw [Spelling.supplement_eq_evaluated]
    decide +kernel
  unfold withSupplement
  generalize Spelling.supplement = rows at h ⊢
  induction rows generalizing t with
  | nil => rw [List.foldl_nil, List.append_nil]
  | cons row rows ih =>
    rw [List.foldl_cons, ih _ fun line hl => h line (List.mem_cons_of_mem _ hl), Text.lines_append,
      h row List.mem_cons_self, List.append_assoc, List.singleton_append]

theorem lines_countries_respelt (tables : Tables) :
    Text.lines tables.respelt.value.countries =
      (Text.lines tables.countries).map Spelling.countryRules.apply ++ Spelling.supplement := by
  have h := Spelling.withinNames_countryRules.newline_not_mem
  simp only [respelt, Spelling.RuleSet.respell, Noted.value_bind, Noted.value_pure, lines_withSupplement,
    Spelling.RuleSet.lines_apply h]

end FlagState.Tables
