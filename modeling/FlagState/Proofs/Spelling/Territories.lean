import FlagState.Proofs.Allocation.Respelling
import FlagState.Proofs.Spelling.Names

/-!
Overseas territories are listed behind the state that they belong to. The general rules cut that state off
in front of any territory whose name no other rule takes for something else
(`territory_loses_its_sovereign`).
-/
namespace FlagState.Spelling

/-- The text that a rule replaces, where it is one. -/
def Rule.old? : Rule → Option Text
  | dropQualifiers => none
  | replace old _ => some old

/-- All texts that the rules replace. -/
def RuleSet.olds (s : RuleSet) : List Text := s.rules.filterMap Rule.old?

/-- The states that a general rule cuts off in front of their territories. -/
def sovereigns : List Text :=
  ["France", "Australia", "New Zealand", "China", "Denmark", "Netherlands", "United States of America",
   "United Kingdom of Great Britain and Northern Ireland"]

/-- The name of a territory behind its state, both with qualifiers. -/
def overseasName (sovereign : Text) (qs : List Text) (territory : Text) (rs : List Text) : Text :=
  sovereign ++ (Text.qualifiers qs ++ ((" - " : Text) ++ territory ++ Text.qualifiers rs))

/-- The beginning that a general rule cuts off. -/
def overseasOf (sovereign : Text) : Text := sovereign ++ (" - " : Text)

private theorem olds_allocationRules : allocationRules.olds = nameRules.rules.map Rule.target := rfl

/-- The general rule of the state is the only one with its text, and the name of the state is plain. -/
private theorem rule_of_sovereign : ∀ sovereign ∈ sovereigns,
    Rule.replace (overseasOf sovereign) [] ∈ nameRules.rules ∧
      (∀ rule ∈ nameRules.rules, rule.target = overseasOf sovereign →
        rule = .replace (overseasOf sovereign) []) ∧
      sovereign.all (fun c => c ≠ '(' && c ≠ '\n') = true := by
  rw [nameRules, allocationRules_eq_evaluated]
  decide +kernel

private theorem not_mem_sovereign {sovereign : Text} (hs : sovereign ∈ sovereigns) :
    '(' ∉ sovereign ∧ '\n' ∉ sovereign := by
  have h := List.all_eq_true.mp (rule_of_sovereign sovereign hs).2.2
  exact ⟨fun hm => by simpa using h _ hm, fun hm => by simpa using h _ hm⟩

section Name

variable {sovereign territory : Text} {qs rs : List Text} (hs : sovereign ∈ sovereigns)
  (hq : ∀ q ∈ qs, ')' ∉ q ∧ '\n' ∉ q) (hr : ∀ q ∈ rs, ')' ∉ q ∧ '\n' ∉ q)

include hs hq hr

theorem newline_not_mem_overseasName (ht : '\n' ∉ territory) :
    '\n' ∉ overseasName sovereign qs territory rs := by
  have hd : '\n' ∉ (" - " : Text) ++ territory := by
    rw [List.mem_append, not_or]
    exact ⟨by decide, ht⟩
  have hq := Text.not_mem_append_qualifiers hq (not_mem_sovereign hs).2
  have hr := Text.not_mem_append_qualifiers hr hd
  rw [overseasName, ← List.append_assoc, List.mem_append, not_or]
  exact ⟨hq, hr⟩

theorem dropQualifiers_overseasName (ht : '(' ∉ territory) :
    Text.dropQualifiers (overseasName sovereign qs territory rs) = overseasOf sovereign ++ territory := by
  have hd : '(' ∉ (" - " : Text) ++ territory := by
    rw [List.mem_append, not_or]
    exact ⟨by decide, ht⟩
  -- Behind the name of the state stands a space, that of a qualifier or that of the dash.
  have hh : '(' ∉ (Text.qualifiers qs ++ ((" - " : Text) ++ territory ++ Text.qualifiers rs)).head? := by
    cases qs with
    | nil => simp [Text.qualifiers]
    | cons q qs => simp [Text.qualifiers_cons]
  rw [overseasName, Text.dropQualifiers_append_of_opening (not_mem_sovereign hs).1 hh,
    Text.dropQualifiers_qualifiers_append hq, Text.dropQualifiers_append_qualifiers hr hd, overseasOf,
    List.append_assoc]

end Name

/-- A row that lists a territory behind its state, both with qualifiers or without, comes to name the
territory alone, if no rule finds anything in that name, or in it behind the state, but the state. -/
theorem territory_loses_its_sovereign {sovereign : Text} (hs : sovereign ∈ sovereigns) {mid : Text}
    (hm : mid.length = 3) (hd : mid.all Text.isDigit = true) {territory : Text} (hp : '(' ∉ territory)
    (hl : '\n' ∉ territory) (ht : ∀ old ∈ allocationRules.olds, ¬ old <:+: territory)
    (hw : ∀ old ∈ allocationRules.olds,
      old <:+: overseasOf sovereign ++ territory → old = overseasOf sovereign)
    {qs rs : List Text} (hq : ∀ q ∈ qs, ')' ∉ q ∧ '\n' ∉ q) (hr : ∀ q ∈ rs, ')' ∉ q ∧ '\n' ∉ q) :
    allocationRules.apply (Allocation.row ⟨mid, overseasName sovereign qs territory rs⟩) =
      Allocation.row ⟨mid, territory⟩ := by
  obtain ⟨hrule, hone, -⟩ := rule_of_sovereign sovereign hs
  rw [olds_allocationRules, List.forall_mem_map] at ht hw
  have hrow : Allocation.Clean ⟨mid, overseasName sovereign qs territory rs⟩ :=
    ⟨hm, hd, newline_not_mem_overseasName hs hq hr hl⟩
  have hcut : (Rule.replace (overseasOf sovereign) []).apply (overseasOf sovereign ++ territory) = territory :=
    Text.replaceUnlessWithin_nil_append (by simp [overseasOf]) (ht _ hrule)
  have hname : nameRules.apply (overseasOf sovereign ++ territory) = territory :=
    RuleSet.apply_of_only hrule (fun rule hm hi => hone rule hm (hw rule hm hi)) ht hcut
  rw [hrow.apply_row withinNames_allocationRules, allocationRules_apply,
    dropQualifiers_overseasName hs hq hr hp, hname]

private def unitedKingdom : Text := "United Kingdom of Great Britain and Northern Ireland"

/-- The name of the territory begins like one that has a rule of its own, and closes a parenthesis. -/
theorem territory_loses_its_sovereign_near_miss :
    unitedKingdom ∈ sovereigns ∧ (∀ old ∈ allocationRules.olds, ¬ old <:+: ("Saint Helen)a" : Text)) ∧
      (∀ old ∈ allocationRules.olds, old <:+: overseasOf unitedKingdom ++ ("Saint Helen)a" : Text) →
        old = overseasOf unitedKingdom) ∧
      allocationRules.apply
          "٣٠٣\tUnited Kingdom of Great Britain and Northern Ireland (a (b) (c) - Saint Helen)a (d)" =
        "٣٠٣\tSaint Helen)a" := by
  have hs : unitedKingdom ∈ sovereigns := by
    unfold unitedKingdom sovereigns
    decide +kernel
  have hnames : (∀ old ∈ allocationRules.olds, ¬ old <:+: ("Saint Helen)a" : Text)) ∧
      ∀ old ∈ allocationRules.olds, old <:+: overseasOf unitedKingdom ++ ("Saint Helen)a" : Text) →
        old = overseasOf unitedKingdom := by
    rw [allocationRules_eq_evaluated]
    decide +kernel
  have hrow : ("٣٠٣\tUnited Kingdom of Great Britain and Northern Ireland (a (b) (c) - Saint Helen)a (d)" : Text) =
      Allocation.row ⟨"٣٠٣", overseasName unitedKingdom ["a (b", "c"] "Saint Helen)a" ["d"]⟩ := by
    decide +kernel
  have hq : ∀ q ∈ (["a (b", "c"] : List Text), ')' ∉ q ∧ '\n' ∉ q := by decide +kernel
  have hr : ∀ q ∈ (["d"] : List Text), ')' ∉ q ∧ '\n' ∉ q := by decide +kernel
  have hd : ("٣٠٣" : Text).all Text.isDigit = true := by decide +kernel
  have ha := territory_loses_its_sovereign hs (by decide +kernel) hd (by decide +kernel) (by decide +kernel)
    hnames.1 hnames.2 hq hr
  refine ⟨hs, hnames.1, hnames.2, ?_⟩
  rw [hrow, ha]
  decide +kernel

end FlagState.Spelling
