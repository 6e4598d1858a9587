import FlagState.Proofs.Spelling.Evaluation
import FlagState.Proofs.Text.Occurrences

/-!
What a replacing rule leaves alone. Meant is every text that already lies in an occurrence of the new one;
kept is every text that a scan of the new one finds there (`replacing_keeps_found`). Where the new text holds
the old one several times over, across itself, the two differ (`replacing_within_new`).
-/
namespace FlagState.Spelling

open Text (EnclosedAt FindsAll FoundAt)

private def Rule.FindsAllOld : Rule → Prop
  | dropQualifiers => True
  | replace old new => FindsAll old new

private instance decidableFindsAllOld : DecidablePred Rule.FindsAllOld
  | .dropQualifiers => inferInstanceAs (Decidable True)
  | .replace old new => inferInstanceAs (Decidable (FindsAll old new))

private theorem findsAllOld : ∀ rule ∈ allocationRules.rules ++ countryRules.rules, rule.FindsAllOld := by
  rw [allocationRules_eq_evaluated, countryRules_eq_evaluated]
  decide +kernel

/-- A replacing rule scans a text for `old` and keeps each that it finds in a `new`; it replaces all others,
and so all in a text without `new`. It comes to keeping what lies in any `new` just where every such text is
found. That is so in all texts if the scan of `new` misses no `old`, as for each rule of the tables. -/
theorem replacing_keeps_found {old : Text} (hne : old ≠ []) (new t : Text) :
    (Rule.replace old new).apply t =
        Text.rewrite old (fun i => if FoundAt old new t i then old else new) t ∧
      ((Rule.replace old new).apply t = Text.replaceOutside old new t ↔
        ∀ i ∈ Text.occurrences old t, EnclosedAt old new t i → FoundAt old new t i) ∧
      (¬ new <:+: t → (Rule.replace old new).apply t = Text.replaceAll old new t) ∧
      (FindsAll old new → (Rule.replace old new).apply t = Text.replaceOutside old new t) ∧
      (.replace old new ∈ allocationRules.rules ++ countryRules.rules → FindsAll old new) := by
  refine ⟨?_, ?_, fun hn => ?_, fun hf => ?_, fun hm => findsAllOld _ hm⟩
  · exact Text.replaceUnlessWithin_eq_rewrite hne new t
  · exact Text.replaceUnlessWithin_eq_replaceOutside_iff hne
  · exact Text.replaceUnlessWithin_eq_replaceAll hne hn
  · exact hf.replaceUnlessWithin_eq hne t

/-- One name stands in its long form and one behind it; a scan of the long form finds the short one. -/
theorem replacing_keeps_found_macedonia :
    .replace "North Macedonia" "Republic of North Macedonia" ∈ allocationRules.rules ++ countryRules.rules ∧
      ("North Macedonia" : Text) ≠ [] ∧
      (Rule.replace "North Macedonia" "Republic of North Macedonia").apply
          "Republic of North MacedoniaNorth Macedonia" =
        Text.replaceOutside "North Macedonia" "Republic of North Macedonia"
          "Republic of North MacedoniaNorth Macedonia" ∧
      ¬ ("Republic of North Macedonia" : Text) <:+: "of North Macedonia" ∧
      (Rule.replace "North Macedonia" "Republic of North Macedonia").apply "of North Macedonia" =
        "of Republic of North Macedonia" := by
  have hrule : .replace "North Macedonia" "Republic of North Macedonia" ∈
      allocationRules.rules ++ countryRules.rules := by
    rw [allocationRules_eq_evaluated, countryRules_eq_evaluated]
    decide +kernel
  have hne : ("North Macedonia" : Text) ≠ [] := by decide
  have hn : ¬ ("Republic of North Macedonia" : Text) <:+: "of North Macedonia" := by decide
  obtain ⟨-, -, -, hkept, hfinds⟩ := replacing_keeps_found hne "Republic of North Macedonia"
    "Republic of North MacedoniaNorth Macedonia"
  obtain ⟨-, -, hall, -⟩ := replacing_keeps_found hne "Republic of North Macedonia" "of North Macedonia"
  refine ⟨hrule, hne, hkept (hfinds hrule), hn, ?_⟩
  rw [hall hn]
  decide

/-- The second `aa` lies in an `aaa`, but at an offset at which no scan of `aaa` finds it: it is replaced. -/
theorem replacing_within_new :
    2 ∈ Text.occurrences "aa" "aaaa" ∧ EnclosedAt "aa" "aaa" "aaaa" 2 ∧ ¬ FoundAt "aa" "aaa" "aaaa" 2 ∧
      (Rule.replace "aa" "aaa").apply "aaaa" = "aaaaa" ∧ Text.replaceOutside "aa" "aaa" "aaaa" = "aaaa" := by
  decide

end FlagState.Spelling
