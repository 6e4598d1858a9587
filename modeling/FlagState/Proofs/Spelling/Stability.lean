import Mathlib
import FlagState.Proofs.Spelling.Names
import FlagState.Proofs.Text.Weight

/-!
What a further application can still change. A replacement whose texts cannot lie across each other changes
nothing the second time (`replacing_is_stable`). A pass of the rules for allocations that changes nothing
shows that none of its rules can change anything (`unchanged_iff_no_rule_applies`): every rule that changes
a text makes it lighter, and so no rule makes up for another.
-/
namespace FlagState.Spelling

section Replacing

/-- An expanding rule writes a text that holds the one that it replaces. -/
private def Rule.ApartIfExpanding : Rule → Prop
  | dropQualifiers => True
  | replace old new => old <:+: new → Text.Apart old new

private instance decidableApartIfExpanding : DecidablePred Rule.ApartIfExpanding
  | .dropQualifiers => inferInstanceAs (Decidable True)
  | .replace old new => inferInstanceAs (Decidable (old <:+: new → Text.Apart old new))

private theorem allocationRules_apart : ∀ rule ∈ allocationRules.rules, rule.ApartIfExpanding := by
  rw [allocationRules_eq_evaluated]
  decide +kernel

/-- A replacement whose texts cannot lie across each other changes nothing the second time, whether the new
text holds the old one or not. The expanding rules for allocations are of this kind. -/
theorem replacing_is_stable :
    (∀ old new : Text, Text.Apart old new → ∀ t : Text,
      (Rule.replace old new).apply ((Rule.replace old new).apply t) = (Rule.replace old new).apply t) ∧
    ∀ old new : Text, .replace old new ∈ allocationRules.rules → old <:+: new → Text.Apart old new :=
  ⟨fun _ _ ha t => Text.replaceUnlessWithin_replaceUnlessWithin ha t,
    fun _ _ hm => allocationRules_apart _ hm⟩

/-- The short name is kept where it stands in the long one, and replaced right behind it. -/
theorem replacing_is_stable_macedonia :
    .replace "Tanzania" "Tanzania, United Republic of" ∈ allocationRules.rules ∧
      .replace "North Macedonia" "Republic of North Macedonia" ∈ allocationRules.rules ∧
      Text.Apart "Tanzania" "Tanzania, United Republic of" ∧
      Text.Apart "North Macedonia" "Republic of North Macedonia" ∧
      (Rule.replace "North Macedonia" "Republic of North Macedonia").apply
          ((Rule.replace "North Macedonia" "Republic of North Macedonia").apply
            "Republic of North MacedoniaNorth Macedonia") =
        "Republic of North MacedoniaRepublic of North Macedonia" := by
  have hrules : .replace "Tanzania" "Tanzania, United Republic of" ∈ allocationRules.rules ∧
      .replace "North Macedonia" "Republic of North Macedonia" ∈ allocationRules.rules := by
    rw [allocationRules_eq_evaluated]
    decide +kernel
  have htanzania := replacing_is_stable.2 _ _ hrules.1 (by decide +kernel)
  have hmacedonia := replacing_is_stable.2 _ _ hrules.2 (by decide +kernel)
  refine ⟨hrules.1, hrules.2, htanzania, hmacedonia, ?_⟩
  rw [replacing_is_stable.1 _ _ hmacedonia]
  decide +kernel

end Replacing

section Lightening

/-- Every rule that changes a text lowers its height. -/
def RuleSet.Lowers {α : Type} [Preorder α] (s : RuleSet) (height : Text → α) : Prop :=
  ∀ rule ∈ s.rules, ∀ t, rule.apply t = t ∨ height (rule.apply t) < height t

variable {α : Type} [Preorder α] {s : RuleSet} {height : Text → α}

namespace RuleSet.Lowers

theorem unchanged_or_lt (h : s.Lowers height) (t : Text) :
    (∀ rule ∈ s.rules, rule.apply t = t) ∨ height (s.apply t) < height t := by
  obtain ⟨name, rules⟩ := s
  induction rules generalizing t with
  | nil => exact .inl (List.forall_mem_nil _)
  | cons rule rules ih =>
    have hi (u : Text) := ih u fun r hr => h r (List.mem_cons_of_mem rule hr)
    have hstep : RuleSet.apply ⟨name, rule :: rules⟩ t = RuleSet.apply ⟨name, rules⟩ (rule.apply t) := rfl
    rw [hstep]
    obtain he | hlt := h rule List.mem_cons_self t
    · rw [he]
      exact (hi t).imp_left fun hall => List.forall_mem_cons.mpr ⟨he, hall⟩
    · obtain hall | hle := hi (rule.apply t)
      · have hu : RuleSet.apply ⟨name, rules⟩ (rule.apply t) = rule.apply t := RuleSet.apply_eq_self hall
        exact .inr (by rw [hu]; exact hlt)
      · exact .inr (hle.trans hlt)

theorem apply_eq_self_iff (h : s.Lowers height) (t : Text) :
    s.apply t = t ↔ ∀ rule ∈ s.rules, rule.apply t = t := by
  refine ⟨fun he => (h.unchanged_or_lt t).resolve_right fun hlt => ?_, RuleSet.apply_eq_self⟩
  rw [he] at hlt
  exact lt_irrefl _ hlt

end RuleSet.Lowers

/-- Opening parentheses outweigh everything else, since a qualifier may hold any letter. Commas come in with
long names and never go, dashes, `D` and `R` go with short ones, and `f` comes in with `Republic of`. -/
def burden (c : Char) : ℤ ×ₗ ℤ :=
  toLex (if c = '(' then 1 else 0,
    if c = ',' then -1 else if c = '-' then 3 else if c = 'D' then 2 else if c = 'f' then -2
      else if c = 'R' then 1 else 0)

private def Rule.Unburdens : Rule → Prop
  | dropQualifiers => True
  | replace old new => Text.weight burden new < Text.weight burden old

private instance decidableUnburdens : DecidablePred Rule.Unburdens
  | .dropQualifiers => inferInstanceAs (Decidable True)
  | .replace old new => inferInstanceAs (Decidable (Text.weight burden new < Text.weight burden old))

private theorem allocationRules_unburden : ∀ rule ∈ allocationRules.rules, rule.Unburdens := by
  rw [allocationRules_eq_evaluated]
  decide +kernel

private theorem fst_weight_burden (t : Text) : (ofLex (Text.weight burden t)).1 = t.count '(' := by
  induction t with
  | nil => rfl
  | cons c t ih =>
    rw [Text.weight_cons, ofLex_add, Prod.fst_add, ih]
    by_cases hc : c = '('
    · simp [burden, hc, add_comm]
    · simp [burden, hc]

theorem allocationRules_lowers : allocationRules.Lowers (Text.weight burden) := by
  intro rule hm t
  cases rule with
  | dropQualifiers =>
    refine Text.weight_dropQualifiers (fun q => Prod.Lex.lt_iff.mpr (.inl ?_)) t
    rw [fst_weight_burden]
    simp
  | replace old new => exact Text.weight_replaceUnlessWithin (allocationRules_unburden _ hm) t

/-- A pass that changes nothing shows that no rule applies any more. -/
theorem unchanged_iff_no_rule_applies (t : Text) :
    allocationRules.apply t = t ↔ ∀ rule ∈ allocationRules.rules, rule.apply t = t :=
  allocationRules_lowers.apply_eq_self_iff t

end Lightening

end FlagState.Spelling
