import FlagState.Proofs.Country.Clean
import FlagState.Proofs.Generation.Output

/-!
What an arm of a run can hold: three digits that its table holds too, a code of two letters and a country on
one line (`wellFormed_of_mem_arms`). The digits are those of all scripts, so that an arm need not be a
number that a match can hold (`run_lists_devanagari_digits`).
-/
namespace FlagState

/-- Three digits, two letters and a country that stays on one line. -/
structure Arm.WellFormed (a : Arm) : Prop where
  mid : a.mid.length = 3 ∧ a.mid.all Text.isDigit = true
  alpha2 : a.alpha2.length = 2 ∧ a.alpha2.all Country.isLetter = true
  country_line : '\n' ∉ a.country

namespace Tables

variable {tables : Tables}

/-- An allocation of a respelt table is a row, and its digits were there before. -/
theorem clean_of_mem_linewiseAllocations {a : Allocation} (h : a ∈ tables.linewiseAllocations) :
    a.Clean ∧ ∀ c ∈ a.mid, c ∈ tables.allocations := by
  obtain ⟨_, hm, ha⟩ := List.mem_filterMap.mp h
  obtain ⟨line, hl, rfl⟩ := List.mem_map.mp hm
  obtain ⟨r, rfl, hr⟩ := Allocation.exists_writtenRow ha
  refine ⟨r.clean, fun c hc => (Text.isInfix_of_mem_lines hl).subset ?_⟩
  have hd := Spelling.withinNames_allocationRules.digit_not_mem (List.all_eq_true.mp r.clean.digits c hc)
  have hs : c ∈ Spelling.allocationRules.apply line := by
    rw [← hr]
    exact List.mem_append_left _ hc
  by_contra hn
  exact Spelling.RuleSet.not_mem_apply hd hn hs

theorem letters_of_code? {name alpha2 : Text} (h : tables.code? name = some alpha2) :
    alpha2.length = 2 ∧ alpha2.all Country.isLetter = true := by
  rw [code?, Option.map_eq_some_iff] at h
  obtain ⟨c, hc, rfl⟩ := h
  exact (Country.clean_of_mem_ofLines (Country.mem_of_lastNamed? hc).1).alpha2

end Tables

namespace Generation

theorem wellFormed_of_mem_arms {tables : Tables} {arm : Arm} (h : arm ∈ arms tables) :
    arm.WellFormed ∧ ∀ c ∈ arm.mid, c ∈ tables.allocations := by
  rw [arms_eq_armsAfter] at h
  obtain ⟨a, ha, hm, hc, hx⟩ := Matching.mem_armsAfter h
  rw [alpha2?_countriesOf] at hx
  obtain ⟨hclean, hd⟩ := Tables.clean_of_mem_linewiseAllocations ha
  rw [← hm] at hd
  refine ⟨⟨?_, Tables.letters_of_code? hx, ?_⟩, hd⟩
  · rw [hm]
    exact ⟨hclean.length_mid, hclean.digits⟩
  · rw [hc]
    exact hclean.country_line

/-- Whatever the tables and however little room there is, a run lists well-formed arms only. The digits of
its arms are those of the table, so that they are numerals if the table holds no other digits. -/
theorem run_lists_wellFormed_arms (tables : Tables) (l : Listing) (diagnostics : Sink) :
    ((run tables l diagnostics).value.listing.sink.contents =
        l.sink.contents ++ output tables l diagnostics ∧
      output tables l diagnostics <+:
        (l.layout.header l.functionName ++ Arm.lines (arms tables) ++ closing tables l.layout).utf8) ∧
      (∀ arm ∈ arms tables, arm.WellFormed ∧ ∀ c ∈ arm.mid, c ∈ tables.allocations) ∧
      ((∀ c ∈ tables.allocations, Text.isDigit c = true → Country.isNumeral c = true) →
        ∀ arm ∈ arms tables, arm.mid.all Country.isNumeral = true) := by
  have hw (arm : Arm) (h : arm ∈ arms tables) := wellFormed_of_mem_arms h
  refine ⟨?_, hw, fun hn arm h => List.all_eq_true.mpr fun c hc => ?_⟩
  · rw [← listed_eq_arms]
    exact contents_append_output tables l diagnostics
  · obtain ⟨hf, hd⟩ := hw arm h
    exact hn c (hd c hc) (List.all_eq_true.mp hf.mid.2 c hc)

/-- A table of ASCII digits, whose first row is listed before a country is unknown. -/
theorem run_lists_wellFormed_arms_unknown :
    (∀ c ∈ unmatchedTables.allocations, Text.isDigit c = true → Country.isNumeral c = true) ∧
      ⟨"306", "AA", "A", false⟩ ∈ arms unmatchedTables ∧
      Arm.WellFormed ⟨"306", "AA", "A", false⟩ ∧ ("306" : Text).all Country.isNumeral = true := by
  have hd : unmatchedTables.allocations.all (fun c => !Text.isDigit c || Country.isNumeral c) = true := by
    decide +kernel
  have hn : ∀ c ∈ unmatchedTables.allocations, Text.isDigit c = true → Country.isNumeral c = true := by
    intro c hc
    have h := List.all_eq_true.mp hd c hc
    simpa [← Bool.not_eq_true, imp_iff_not_or] using h
  have hc : (countriesOf unmatchedTables).1.alpha2? "A" = some ("AA" : Text) := by
    rw [alpha2?_countriesOf]
    decide +kernel
  have harm : ⟨"306", "AA", "A", false⟩ ∈ arms unmatchedTables := by
    rw [arms_eq_armsAfter, linewiseAllocations_unmatchedTables, Matching.armsAfter_cons_of_known hc]
    exact List.mem_cons_self
  obtain ⟨-, hw, hm⟩ := run_lists_wellFormed_arms unmatchedTables
    (.into (Sink.ofCapacity none) .entries) (Sink.ofCapacity none)
  exact ⟨hn, harm, (hw _ harm).1, hm hn _ harm⟩

/-- A row that begins with the digits two, nought and one of the Devanagari script. -/
def devanagariTables : Tables := ⟨"\u0968\u0966\u0967\tAlbania", "Albania AL ALB 008"⟩

/-- Such a row is listed like any other. -/
theorem run_lists_devanagari_digits :
    arms devanagariTables = [⟨"\u0968\u0966\u0967", "AL", "Albania", false⟩] ∧
      ("\u0968\u0966\u0967" : Text).all Country.isNumeral = false ∧
      (run devanagariTables (.into (Sink.ofCapacity none) .entries)
        (Sink.ofCapacity none)).value.listing.sink.contents =
          Text.utf8 "            \u0968\u0966\u0967 => Some(\"AL\"), // Albania\n" := by
  have ha : devanagariTables.linewiseAllocations = [⟨"\u0968\u0966\u0967", "Albania"⟩] := by
    rw [Tables.linewiseAllocations_eq_evaluated]
    decide +kernel
  have hc : devanagariTables.code? "Albania" = some ("AL" : Text) := by decide +kernel
  have harms := (arms_of_single ha hc).1
  have hs : (Listing.into (Sink.ofCapacity none) .entries).layout = .entries := rfl
  refine ⟨harms, by decide +kernel, ?_⟩
  rw [(contents_append_output devanagariTables _ _).1, output_eq _ rfl rfl, listed_eq_arms, harms, hs,
    closing_entries]
  decide +kernel

end Generation
end FlagState
