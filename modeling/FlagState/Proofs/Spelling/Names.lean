import FlagState.Proofs.Spelling.Lines
import FlagState.Proofs.Text.Absence
import FlagState.Proofs.Text.Evaluation
import FlagState.Proofs.Text.Replacement

/-!
Names that rules leave alone. A rule changes nothing in a text that does not hold its target, so that the
rules can be run past all those whose target has characters that the text lacks (`applyPresent_eq`).
-/
namespace FlagState.Spelling

/-- What has to occur in a text for the rule to change it. -/
def Rule.target : Rule → Text
  | dropQualifiers => [' ', '(']
  | replace old _ => old

theorem Rule.apply_eq_self {rule : Rule} {t : Text} (h : ¬ rule.target <:+: t) : rule.apply t = t := by
  cases rule with
  | dropQualifiers => exact Text.dropQualifiers_eq_self h
  | replace old new => exact Text.replaceUnlessWithin_eq_self h new

theorem RuleSet.apply_eq_self {s : RuleSet} {t : Text} (h : ∀ rule ∈ s.rules, rule.apply t = t) :
    s.apply t = t := by
  obtain ⟨name, rules⟩ := s
  induction rules with
  | nil => rfl
  | cons rule rules ih =>
    change RuleSet.apply ⟨name, rules⟩ (rule.apply t) = t
    rw [h rule List.mem_cons_self]
    exact ih fun r hr => h r (List.mem_cons_of_mem rule hr)

/-- Where one rule only finds its target, and no rule does afterwards, the rule set comes to that rule. -/
theorem RuleSet.apply_of_only {s : RuleSet} {rule : Rule} {t u : Text} (hm : rule ∈ s.rules)
    (ht : ∀ r ∈ s.rules, r.target <:+: t → r = rule) (hu : ∀ r ∈ s.rules, ¬ r.target <:+: u)
    (h : rule.apply t = u) : s.apply t = u := by
  obtain ⟨name, rules⟩ := s
  induction rules with
  | nil => cases hm
  | cons r rules ih =>
    change RuleSet.apply ⟨name, rules⟩ (r.apply t) = u
    by_cases hr : r = rule
    · rw [hr, h]
      exact RuleSet.apply_eq_self fun q hq => Rule.apply_eq_self (hu q (List.mem_cons_of_mem r hq))
    · rw [Rule.apply_eq_self fun hi => hr (ht r List.mem_cons_self hi)]
      have hmt : rule ∈ rules := (List.mem_cons.mp hm).resolve_left fun he => hr he.symm
      exact ih hmt (fun q hq => ht q (List.mem_cons_of_mem r hq)) fun q hq => hu q (List.mem_cons_of_mem r hq)

/-- One rule after the other, without those whose target has a character that the text lacks. -/
def applyPresent : List Rule → Text → Text
  | [], t => t
  | rule :: rules, t =>
    if Nat.beq (rule.target.charBits &&& t.charBits) rule.target.charBits then
      Text.computed (applyPresent rules) (rule.apply t)
    else applyPresent rules t

theorem applyPresent_eq (s : RuleSet) (t : Text) : applyPresent s.rules t = s.apply t := by
  obtain ⟨name, rules⟩ := s
  induction rules generalizing t with
  | nil => rfl
  | cons rule rules ih =>
    change _ = RuleSet.apply ⟨name, rules⟩ (rule.apply t)
    rw [applyPresent, ← ih]
    split
    · rw [Text.computed_eq]
    · next h =>
      have hn : ¬ rule.target <:+: t := fun hi =>
        h (Nat.beq_eq.mpr (Text.charBits_and_of_isInfix hi))
      rw [Rule.apply_eq_self hn]

/-- The rules for allocations behind the one that drops qualifiers. -/
def nameRules : RuleSet := ⟨allocationRules.name, allocationRules.rules.tail⟩

theorem allocationRules_apply (t : Text) :
    allocationRules.apply t = nameRules.apply (Text.dropQualifiers t) := by
  have h : allocationRules.rules = .dropQualifiers :: nameRules.rules := rfl
  unfold RuleSet.apply
  rw [h, List.foldl_cons, Rule.apply]

/-- One supplementary name is taken for that of another country. -/
theorem nameRules_apply_reunion :
    nameRules.apply "France - Reunion" = ("French Southern Territories" : Text) := by
  rw [nameRules, allocationRules_eq_evaluated]
  decide +kernel

end FlagState.Spelling
