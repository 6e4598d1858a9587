import FlagState.Proofs.Country.Grammar
import FlagState.Proofs.Country.Index
import FlagState.Proofs.Tables
import FlagState.Proofs.Text.Closing

/-!
Respelling a table of countries changes the names only. Every find of the country rules ends with a
closing parenthesis, and none stands behind a name (`apply_append`), so that a row that can be read
before can be read afterwards, with the same codes.
-/
namespace FlagState
namespace Spelling

/-- The rule finds nothing that does not end with `last`, and writes nothing that it would find. -/
def Rule.EndsWith (last : Char) : Rule → Prop
  | dropQualifiers => last = ')'
  | replace old new => old.getLast? = some last ∧ Text.occurrences old new = []

instance (last : Char) : DecidablePred (Rule.EndsWith last)
  | .dropQualifiers => inferInstanceAs (Decidable (last = ')'))
  | .replace old new =>
    inferInstanceAs (Decidable (old.getLast? = some last ∧ Text.occurrences old new = []))

theorem Rule.apply_append {rule : Rule} {last : Char} (h : rule.EndsWith last) {b : Text} (hb : last ∉ b)
    (a : Text) : rule.apply (a ++ b) = rule.apply a ++ b := by
  cases rule with
  | dropQualifiers =>
    obtain rfl : last = ')' := h
    exact Text.dropQualifiers_append_of_not_mem hb a
  | replace old new => exact Text.replaceUnlessWithin_append_of_not_mem h.1 h.2 hb a

theorem RuleSet.apply_append {s : RuleSet} {last : Char} (h : ∀ rule ∈ s.rules, rule.EndsWith last)
    {b : Text} (hb : last ∉ b) (a : Text) : s.apply (a ++ b) = s.apply a ++ b := by
  obtain ⟨name, rules⟩ := s
  induction rules generalizing a with
  | nil => rfl
  | cons rule rules ih =>
    have hr := Rule.apply_append (h rule List.mem_cons_self) hb a
    have hi := ih (rule.apply a) fun r hm => h r (List.mem_cons_of_mem _ hm)
    rwa [← hr] at hi

theorem countryRules_endWith : ∀ rule ∈ countryRules.rules, rule.EndsWith ')' := by
  rw [countryRules_eq_evaluated]
  decide +kernel

end Spelling

namespace Country

open Spelling (countryRules)

/-- The country with its name respelt, and without the blanks that this may leave at the end of it. -/
def respelt (c : Country) : Country := { c with name := (countryRules.apply c.name).rdropWhile Text.isBlank }

theorem ofLine?_respelt {line : Text} {c : Country} (h : ofLine? line = some c) :
    ofLine? (countryRules.apply line) = some c.respelt := by
  obtain ⟨codes, rfl, hc, hn⟩ := ofLine?_eq_some h
  have hp : ')' ∉ codes :=
    (withCodes?_eq_some_iff.mp hc).2.not_mem (by decide) (by decide) (by decide)
  rw [Spelling.RuleSet.apply_append Spelling.countryRules_endWith hp]
  have hl := Spelling.RuleSet.not_mem_apply Spelling.withinNames_countryRules.newline_not_mem hn
  exact ofLine?_append hc hl

namespace Row

theorem ofLine_respelt {line : Text} {c : Country} (h : ofLine line = .country c) :
    ofLine (countryRules.apply line) = .country c.respelt :=
  ofLine_eq_country.mpr (ofLine?_respelt (ofLine_eq_country.mp h))

theorem ofLine_eq_malformed_of_respelt {line : Text} (h : ofLine (countryRules.apply line) = .malformed) :
    ofLine line = .malformed := by
  cases hl : ofLine line with
  | malformed => rfl
  | country c =>
    rw [ofLine_respelt hl] at h
    cases h
  | blank =>
    rw [ofLine_eq_blank.mp hl, Spelling.RuleSet.apply_nil] at h
    cases h

end Row

/-- The countries of the supplementary rows. -/
def supplementary : List Country :=
  [⟨"France - Reunion", "RE", "ZZZ", "000"⟩, ⟨"Vatican City State", "VA", "ZZZ", "000"⟩]

theorem ofLine_supplement : Spelling.supplement.map Row.ofLine = supplementary.map .country := by
  rw [Spelling.supplement_eq_evaluated]
  decide +kernel

theorem misreadLines_respelt (tables : Tables) :
    Index.misreadLines tables.respelt.value.countries ⊆ Index.misreadLines tables.countries := by
  intro i hi
  obtain ⟨k, line, rfl, hl, hm⟩ := Index.mem_misreadLines.mp hi
  rw [Tables.lines_countries_respelt] at hl
  rw [Index.mem_misreadLines]
  obtain hk | hk := Nat.lt_or_ge k ((Text.lines tables.countries).map countryRules.apply).length
  · rw [List.getElem?_append_left hk, List.getElem?_map] at hl
    obtain ⟨raw, hr, rfl⟩ := Option.map_eq_some_iff.mp hl
    exact ⟨k, raw, rfl, hr, Row.ofLine_eq_malformed_of_respelt hm⟩
  · rw [List.getElem?_append_right hk] at hl
    have hs := List.mem_map_of_mem (f := Row.ofLine) (List.mem_of_getElem? hl)
    rw [ofLine_supplement, hm, List.mem_map] at hs
    obtain ⟨c, -, hc⟩ := hs
    cases hc

/-- A row that can be read is read after respelling too, with its codes and its respelt name, so that
respelling makes no line malformed. -/
theorem respelling_keeps_rows :
    (∀ (line : Text) (c : Country), Row.ofLine line = .country c →
      ∃ d : Country, Row.ofLine (countryRules.apply line) = .country d ∧ d.alpha2 = c.alpha2 ∧
        d.alpha3 = c.alpha3 ∧ d.numeric = c.numeric ∧
          d.name = (countryRules.apply c.name).rdropWhile Text.isBlank) ∧
      ∀ tables : Tables,
        Index.misreadLines tables.respelt.value.countries ⊆ Index.misreadLines tables.countries := by
  refine ⟨fun line c h => ?_, misreadLines_respelt⟩
  exact ⟨c.respelt, Row.ofLine_respelt h, rfl, rfl, rfl, rfl⟩

/-- The name holds what looks like codes, and a qualifier that it opens twice and closes once. -/
theorem respelling_keeps_rows_inner_codes :
    Row.ofLine "A AA AAA 1  (b (c) BB BBB 2 " = .country ⟨"A AA AAA 1  (b (c)", "BB", "BBB", "2"⟩ ∧
      ∃ d : Country, Row.ofLine (countryRules.apply "A AA AAA 1  (b (c) BB BBB 2 ") = .country d ∧
        d.alpha2 = ("BB" : Text) ∧ d.name = ("A AA AAA 1" : Text) := by
  have h : Row.ofLine "A AA AAA 1  (b (c) BB BBB 2 " =
      .country ⟨"A AA AAA 1  (b (c)", "BB", "BBB", "2"⟩ := by decide +kernel
  obtain ⟨d, hd, ha, -, -, hn⟩ := respelling_keeps_rows.1 _ _ h
  refine ⟨h, d, hd, ha, hn.trans ?_⟩
  rw [Spelling.countryRules_eq_evaluated]
  decide +kernel

end Country
end FlagState
