import FlagState.Proofs.Country.Clean
import FlagState.Proofs.Generation.Output
import FlagState.Proofs.Matching.Calls

/-!
An allocation keeps the blanks at the end of its country, and no country of an index has any there. A run
comes to an end at such an allocation at the latest (`run_stops_at_blank_end`).
-/
namespace FlagState.Generation

variable {tables : Tables}

theorem ofTable_allocations_respelt :
    (Allocation.ofTable tables.respelt.value.allocations).value = tables.linewiseAllocations := by
  simp only [Allocation.ofTable, Tables.respelt, Noted.value_bind, Noted.value_pure,
    Spelling.RuleSet.respell, Tables.linewiseAllocations,
    Spelling.RuleSet.lines_apply Spelling.withinNames_allocationRules.newline_not_mem]

theorem alpha2?_of_endsInBlank {name : Text} (h : name.endsInBlank = true) :
    (countriesOf tables).1.alpha2? name = none := by
  rw [countriesOf_eq, Country.Index.alpha2?, Country.Index.find?_ofTable_of_endsInBlank h, Option.map_none]

/-- How a run ends at an allocation whose country is unknown, and what it has listed by then. -/
theorem run_of_unmatched {a : Allocation} (h : unmatched? tables = some a) {l : Listing}
    (hl : l.sink.capacity = none) {diagnostics : Sink} (hd : diagnostics.capacity = none) :
    let r := (run tables l diagnostics).value
    r.outcome = .error (.unmatched a) ∧
      r.listing.sink.contents =
        l.sink.contents ++ (l.layout.header l.functionName ++ Arm.lines (arms tables)).utf8 := by
  obtain ⟨hc, ho⟩ := @contents_run tables l diagnostics hl hd
  rw [conclusion_eq_arms, h] at ho
  rw [listed_eq_arms, closing, h, if_neg (by simp), List.append_nil] at hc
  exact ⟨ho, hc⟩

/-- The countries of an index have clean fields and names that end in no blank. Hence a run over allocations
of which one has a country that does never succeeds: it stops there or at an earlier one, with all before
that listed. -/
theorem run_stops_at_blank_end :
    (∀ (table : Text) (c : Country), c ∈ (Country.Index.ofTable table).value.1.countries →
      c.HasCodes ∧ '\n' ∉ c.name ∧ c.name.endsInBlank = false) ∧
    ∀ (tables : Tables) (l : Listing) (diagnostics : Sink),
      l.sink.capacity = none → diagnostics.capacity = none →
      let as := (Allocation.ofTable tables.respelt.value.allocations).value
      let r := (run tables l diagnostics).value
      ∀ i a, as[i]? = some a → a.country.endsInBlank = true →
        ∃ j b, j ≤ i ∧ as[j]? = some b ∧ r.outcome = .error (.unmatched b) ∧
          ∃ arms : List Arm, arms.map (fun arm => (⟨arm.mid, arm.country⟩ : Allocation)) = as.take j ∧
            r.listing.sink.contents =
              l.sink.contents ++ (l.layout.header l.functionName ++ Arm.lines arms).utf8 := by
  refine ⟨fun table c hc => ?_, fun tables l diagnostics hl hd => ?_⟩
  · have h := Country.Index.clean_of_mem_ofTable hc
    exact ⟨h.toHasCodes, h.name_line, h.endsInBlank_name⟩
  · dsimp only
    rw [ofTable_allocations_respelt]
    intro i a ha hb
    have hj : Matching.knownCount (countriesOf tables).1 tables.linewiseAllocations ≤ i :=
      Matching.knownCount_le ha (alpha2?_of_endsInBlank hb)
    have hlt : Matching.knownCount (countriesOf tables).1 tables.linewiseAllocations <
        tables.linewiseAllocations.length := Nat.lt_of_le_of_lt hj (List.getElem?_eq_some_iff.mp ha).1
    have hu := unmatched?_eq_unknown? tables
    rw [Matching.unknown?_eq_getElem?, List.getElem?_eq_getElem hlt] at hu
    obtain ⟨ho, hc⟩ := run_of_unmatched hu hl hd
    refine ⟨_, _, hj, List.getElem?_eq_getElem hlt, ho, arms tables, ?_, hc⟩
    rw [arms_eq_armsAfter]
    exact Matching.map_allocation_armsAfter _ _

/-- The last row ends in a carriage return, and so do the countries. -/
def carriageReturnTables : Tables := ⟨"306\tA\n307\tB\r", "A  AA AAA 1\r\nB  BB BBB 2\r"⟩

theorem run_stops_at_carriage_return :
    (Allocation.ofTable carriageReturnTables.respelt.value.allocations).value[1]? = some ⟨"307", "B\r"⟩ ∧
      Text.endsInBlank "B\r" = true ∧
      ∃ j b, j ≤ 1 ∧
        (Allocation.ofTable carriageReturnTables.respelt.value.allocations).value[j]? = some b ∧
        (run carriageReturnTables (.into (Sink.ofCapacity none) .entries)
          (Sink.ofCapacity none)).value.outcome = .error (.unmatched b) := by
  have ha : (Allocation.ofTable carriageReturnTables.respelt.value.allocations).value[1]? =
      some ⟨"307", "B\r"⟩ := by
    rw [ofTable_allocations_respelt]
    rw [Tables.linewiseAllocations_eq_evaluated]
    decide +kernel
  have hb : Text.endsInBlank "B\r" = true := by decide
  have hs := run_stops_at_blank_end.2 carriageReturnTables (.into (Sink.ofCapacity none) .entries)
    (Sink.ofCapacity none) rfl rfl 1 _ ha hb
  obtain ⟨j, b, hj, hjb, ho, -⟩ := hs
  exact ⟨ha, hb, j, b, hj, hjb, ho⟩

end FlagState.Generation
