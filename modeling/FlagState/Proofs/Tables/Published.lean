import FlagState.Proofs.Country.Respelling
import FlagState.Proofs.Generation.Reading
import FlagState.Proofs.Spelling.Names
import FlagState.Proofs.Tables.Rows

/-!
What the published tables come to once their spellings are brought together. The rules for allocations
leave the names of the index alone but for one (`allocationRules_apply_indexed`), and every published
allocation gets one of these names (`exists_indexed`).
-/
namespace FlagState

open Spelling (allocationRules applyPresent countryRules nameRules)

namespace Country

/-- The countries of the published table as they enter the index. -/
def indexed : List Country := published.map respelt ++ supplementary

theorem ofLine_row_published {c : Country} (h : c ∈ published) : Row.ofLine c.row = .country c :=
  Row.ofLine_eq_country.mpr (ofLine?_row_published h)

theorem ofLines_respelt_published :
    ofLines ((Text.lines publishedTable).map countryRules.apply ++ Spelling.supplement) = indexed := by
  have hr : (published.map row).filterMap (fun line => (Row.ofLine (countryRules.apply line)).toOption) =
      published.map respelt := by
    rw [List.filterMap_map, ← List.filterMap_eq_map]
    refine List.filterMap_congr fun c hc => ?_
    simp only [Function.comp_apply, Row.ofLine_respelt (ofLine_row_published hc), Row.toOption]
  have hb : [([] : Text)].filterMap (fun line => (Row.ofLine (countryRules.apply line)).toOption) = [] := by
    simp only [List.filterMap_cons, Spelling.RuleSet.apply_nil, List.filterMap_nil]
    rfl
  have hs : ofLines Spelling.supplement = supplementary := by
    have ho := congrArg (List.filterMap Row.toOption) ofLine_supplement
    rw [List.filterMap_map, List.filterMap_map] at ho
    exact ho.trans List.filterMap_some
  unfold ofLines at hs ⊢
  rw [List.filterMap_append, hs, List.filterMap_map, lines_publishedTable, ← List.singleton_append]
  simp only [Function.comp_def]
  rw [List.filterMap_append, List.filterMap_append, hb, hr, List.nil_append, List.append_nil, indexed]

theorem misreadLines_published : Index.misreadLines publishedTable = [] := by
  refine List.eq_nil_iff_forall_not_mem.mpr fun i hi => ?_
  obtain ⟨k, line, -, hl, hm⟩ := Index.mem_misreadLines.mp hi
  have hl := List.mem_of_getElem? hl
  rw [lines_publishedTable, List.cons_append, List.mem_cons, List.mem_append, List.mem_map,
    List.mem_singleton] at hl
  rcases hl with rfl | ⟨c, hc, rfl⟩ | rfl
  · cases hm
  · rw [ofLine_row_published hc] at hm
    cases hm
  · cases hm

end Country

section Evaluation

private theorem respelt_eq : Country.respelt = fun c =>
    { c with name := (applyPresent countryRules.rules c.name).rdropWhile Text.isBlank } := by
  funext c
  rw [Spelling.applyPresent_eq, Country.respelt]

/-- On one line, with no blank at its head and no qualifier at its end, and left alone by the rules. -/
private def stays (name : Text) : Bool :=
  Text.computed (fun n : Text => !n.charBits.testBit '('.toNat && !n.charBits.testBit '\n'.toNat &&
    !n.head?.any Text.isBlank &&
      (decide (n = "France - Reunion") || decide (applyPresent nameRules.rules n = n))) name

/-- The rules bring the name to one of `names`. -/
private def reaches (names : List Text) (name : Text) : Bool :=
  Text.computed (fun t => Text.computed (fun u => decide (u ≠ "France - Reunion") && Text.isOneOf names u)
    (applyPresent nameRules.rules t)) (Text.dropQualifiers name)

-- One statement for both tables, since the names of the index are computed for it.
set_option maxRecDepth 4000 in
private theorem evaluated : Text.computedAll (fun names => names.all stays &&
    (Allocation.published.map Allocation.country).all (reaches names))
      (Country.indexed.map Country.name) = true := by
  unfold Country.indexed stays reaches nameRules
  rw [respelt_eq, Country.published_eq_evaluated, Allocation.published_eq_evaluated,
    Spelling.countryRules_eq_evaluated, Spelling.allocationRules_eq_evaluated]
  decide +kernel

private theorem stays_of_mem {c : Country} (h : c ∈ Country.indexed) : stays c.name = true := by
  have he := evaluated
  rw [Text.computedAll_eq, Bool.and_eq_true, List.all_eq_true] at he
  exact he.1 c.name (List.mem_map_of_mem h)

private theorem reaches_of_mem {a : Allocation} (h : a ∈ Allocation.published) :
    reaches (Country.indexed.map Country.name) a.country = true := by
  have he := evaluated
  rw [Text.computedAll_eq, Bool.and_eq_true, List.all_eq_true, List.all_eq_true] at he
  exact he.2 a.country (List.mem_map_of_mem h)

end Evaluation

namespace Country

/-- Names of the index are on one line, with no blank at their head and no qualifier at their end. -/
theorem name_indexed {c : Country} (h : c ∈ indexed) :
    '(' ∉ c.name ∧ '\n' ∉ c.name ∧ Text.skipBlanks c.name = c.name := by
  have hn := stays_of_mem h
  rw [stays, Text.computed_eq] at hn
  simp only [Bool.and_eq_true, Bool.not_eq_true'] at hn
  obtain ⟨⟨⟨hq, hl⟩, hb⟩, -⟩ := hn
  refine ⟨Text.not_mem_of_testBit_charBits hq, Text.not_mem_of_testBit_charBits hl, ?_⟩
  exact Text.skipBlanks_eq_self fun c hc => by simpa [Option.mem_def.mp hc] using hb

theorem nameRules_apply_indexed {c : Country} (h : c ∈ indexed) (hr : c.name ≠ ("France - Reunion" : Text)) :
    nameRules.apply c.name = c.name := by
  have hn := stays_of_mem h
  rw [stays, Text.computed_eq, Spelling.applyPresent_eq] at hn
  simp only [Bool.and_eq_true, Bool.or_eq_true, decide_eq_true_eq] at hn
  exact hn.2.resolve_left hr

/-- With or without qualifiers the name of an indexed country is left as it is. -/
theorem allocationRules_apply_indexed {c : Country} (h : c ∈ indexed)
    (hr : c.name ≠ ("France - Reunion" : Text)) {qs : List Text} (hq : ∀ q ∈ qs, ')' ∉ q ∧ '\n' ∉ q) :
    allocationRules.apply (c.name ++ Text.qualifiers qs) = c.name := by
  rw [Spelling.allocationRules_apply, Text.dropQualifiers_append_qualifiers hq (name_indexed h).1,
    nameRules_apply_indexed h hr]

/-- The country that Reunion is taken for. -/
def southernTerritories : Country := ⟨"French Southern Territories", "TF", "ATF", "260"⟩

theorem allocationRules_apply_reunion {c : Country} (h : c ∈ indexed)
    (hr : c.name = ("France - Reunion" : Text)) {qs : List Text} (hq : ∀ q ∈ qs, ')' ∉ q ∧ '\n' ∉ q) :
    allocationRules.apply (c.name ++ Text.qualifiers qs) = southernTerritories.name := by
  rw [Spelling.allocationRules_apply, Text.dropQualifiers_append_qualifiers hq (name_indexed h).1, hr,
    Spelling.nameRules_apply_reunion]
  rfl

set_option maxRecDepth 4000 in
theorem lastNamed?_indexed :
    lastNamed? indexed southernTerritories.name = some southernTerritories ∧
      lastNamed? indexed "France - Reunion" = some ⟨"France - Reunion", "RE", "ZZZ", "000"⟩ ∧
      lastNamed? indexed "Vatican City State" = some ⟨"Vatican City State", "VA", "ZZZ", "000"⟩ := by
  rw [indexed, respelt_eq, published_eq_evaluated, Spelling.countryRules_eq_evaluated]
  decide +kernel

end Country

/-- Every published allocation is brought to the name of an indexed country. -/
theorem Allocation.exists_indexed {a : Allocation} (h : a ∈ published) :
    ∃ c ∈ Country.indexed, c.name ≠ ("France - Reunion" : Text) ∧ allocationRules.apply a.country = c.name := by
  have hn := reaches_of_mem h
  rw [reaches, Text.computed_eq, Text.computed_eq, Spelling.applyPresent_eq, Bool.and_eq_true,
    decide_eq_true_eq, ← Spelling.allocationRules_apply] at hn
  obtain ⟨c, hc, he⟩ := List.mem_map.mp (Text.mem_of_isOneOf hn.2)
  exact ⟨c, hc, he ▸ hn.1, he.symm⟩

namespace Tables

variable {tables : Tables} (h : tables.countries = Country.publishedTable)

include h

theorem linewiseCountries_published : tables.linewiseCountries = Country.indexed := by
  rw [linewiseCountries, h, Country.ofLines_respelt_published]

theorem find?_published (name : Text) :
    (Generation.countriesOf tables).1.find? name = Country.lastNamed? Country.indexed name := by
  rw [Generation.find?_countriesOf, linewiseCountries_published h]

theorem misreadings_published : (Generation.countriesOf tables).2 = [] := by
  have hm := Country.misreadLines_respelt tables
  rw [h, Country.misreadLines_published, List.subset_nil, Country.Index.misreadLines,
    List.map_eq_nil_iff] at hm
  unfold Generation.countriesOf
  exact hm

end Tables
end FlagState
