import FlagState.Proofs.Country.Rearrangement
import FlagState.Proofs.Generation.Output

/-!
Runs over a table of countries and over a rearrangement of it list the same and end alike
(`run_of_rearranged_countries`): a run sees the code of every name, and no other trace of the order of rows.
-/
namespace FlagState.Generation

open Country (namesakes)

section Tables

variable {s t : Text} (h : Rearrangement namesakes (Text.lines s) (Text.lines t)) (allocations : Text)

include h

theorem code?_of_rearrangement (name : Text) :
    Tables.code? ⟨allocations, t⟩ name = Tables.code? ⟨allocations, s⟩ name := by
  simp only [Tables.code?, Tables.linewiseCountries, Country.lastNamed?_of_rearrangement h]

theorem answersOf_of_rearrangement : answersOf ⟨allocations, t⟩ = answersOf ⟨allocations, s⟩ := by
  rw [answersOf_eq, answersOf_eq]
  refine Matching.answersAfter_congr (fun name => ?_) none _
  rw [alpha2?_countriesOf, alpha2?_countriesOf, code?_of_rearrangement h]

theorem listed_of_rearrangement :
    listed ⟨allocations, t⟩ = listed ⟨allocations, s⟩ := by
  unfold listed
  rw [answersOf_of_rearrangement h]

/-- The report may name the misread rows in another order. -/
theorem conclusion_of_rearrangement :
    (∀ e, conclusion ⟨allocations, s⟩ = .error e → conclusion ⟨allocations, t⟩ = .error e) ∧
      ∀ r, conclusion ⟨allocations, s⟩ = .ok r →
        ∃ q, conclusion ⟨allocations, t⟩ = .ok q ∧ q.active = r.active ∧ q.suppressed = r.suppressed ∧
          (q.misreadings.map Country.Misreading.line).Perm
            (r.misreadings.map Country.Misreading.line) := by
  have harms : arms ⟨allocations, t⟩ = arms ⟨allocations, s⟩ := by
    rw [arms, arms, answersOf_of_rearrangement h]
  have hu : unmatched? ⟨allocations, t⟩ = unmatched? ⟨allocations, s⟩ := by
    simp only [unmatched?, code?_of_rearrangement h, Tables.linewiseAllocations]
  have hm : ((countriesOf ⟨allocations, t⟩).2.map Country.Misreading.line).Perm
      ((countriesOf ⟨allocations, s⟩).2.map Country.Misreading.line) := by
    unfold countriesOf
    exact Country.map_line_of_rearrangement h allocations
  rw [conclusion_eq_arms, conclusion_eq_arms, harms, hu]
  cases unmatched? ⟨allocations, s⟩ with
  | some a => exact ⟨fun e he => he, fun r hr => by cases hr⟩
  | none =>
    refine ⟨fun e he => ?_, fun r hr => ?_⟩
    · cases he
    · obtain rfl := Except.ok.inj hr
      exact ⟨_, rfl, rfl, rfl, hm⟩

end Tables

/-- Rows of one name must stay in order among themselves; all other lines may go anywhere. -/
theorem run_of_rearranged_countries (allocations : Text) {s t : Text}
    (h : Rearrangement namesakes (Text.lines s) (Text.lines t)) (l : Listing) {diagnostics : Sink}
    (hd : diagnostics.capacity = none) :
    let before := (run ⟨allocations, s⟩ l diagnostics).value
    let after := (run ⟨allocations, t⟩ l diagnostics).value
    after.listing = before.listing ∧
      (∀ e, before.outcome = .error e → after.outcome = .error e) ∧
      ∀ r, before.outcome = .ok r →
        ∃ q, after.outcome = .ok q ∧ q.active = r.active ∧ q.suppressed = r.suppressed ∧
          (q.misreadings.map Country.Misreading.line).Perm
            (r.misreadings.map Country.Misreading.line) := by
  have hw := Sink.complete_write_of_unlimited hd
  have hlisted := congrFun (congrFun (listed_of_rearrangement h allocations) l.layout) l.functionName
  cases hl : (l.write (listed ⟨allocations, s⟩ l.layout l.functionName)).2 with
  | false =>
    rw [run_of_full_listing (hw _) hl, run_of_full_listing (hw _) (hlisted ▸ hl), hlisted]
    exact ⟨rfl, fun e he => he, fun r hr => by cases hr⟩
  | true =>
    rw [run_of_room (hw _) hl, run_of_room (hw _) (hlisted ▸ hl), hlisted]
    exact ⟨rfl, conclusion_of_rearrangement h allocations⟩

def clashingCountries : Text := "A  AA AAA 1\nbad\nA (x)  AC AAC 3\nB  BB BBB 2\nworse"

/-- The rows of `A` stay in order. -/
def clashingRearranged : Text := "B  BB BBB 2\nworse\nA  AA AAA 1\nA (x)  AC AAC 3\nbad"

def clashingPlaces : Fin 5 ≃ Fin 5 where
  toFun := List.get [2, 4, 3, 0, 1]
  invFun := List.get [3, 4, 0, 2, 1]
  left_inv := by unfold Function.LeftInverse; decide
  right_inv := by unfold Function.RightInverse Function.LeftInverse; decide

theorem run_of_rearranged_countries_clashing :
    (Sink.ofCapacity none).capacity = none ∧
      (run ⟨"306\tA", clashingCountries⟩ (.into (Sink.ofCapacity none) .entries)
        (Sink.ofCapacity none)).value.outcome = .ok ⟨1, 0, [⟨2, "bad"⟩, ⟨5, "worse"⟩]⟩ ∧
      ∃ q, (run ⟨"306\tA", clashingRearranged⟩ (.into (Sink.ofCapacity none) .entries)
        (Sink.ofCapacity none)).value.outcome = .ok q ∧ q.active = 1 ∧ q.suppressed = 0 ∧
          (q.misreadings.map Country.Misreading.line).Perm ["bad", "worse"] := by
  have hs : Text.lines clashingCountries =
      (["A  AA AAA 1", "bad", "A (x)  AC AAC 3", "B  BB BBB 2", "worse"] : List Text) := by decide +kernel
  have ht : Text.lines clashingRearranged =
      (["B  BB BBB 2", "worse", "A  AA AAA 1", "A (x)  AC AAC 3", "bad"] : List Text) := by decide +kernel
  have h : Rearrangement namesakes (Text.lines clashingCountries) (Text.lines clashingRearranged) := by
    rw [hs, ht]
    refine ⟨clashingPlaces, ?_, ?_⟩
    · decide
    · unfold namesakes Country.enteredName?
      rw [Spelling.countryRules_eq_evaluated]
      decide +kernel
  have ha : Tables.linewiseAllocations ⟨"306\tA", clashingCountries⟩ = [⟨"306", "A"⟩] := by
    rw [Tables.linewiseAllocations_eq_evaluated]
    decide +kernel
  have hc : Tables.code? ⟨"306\tA", clashingCountries⟩ "A" = some ("AC" : Text) := by decide +kernel
  have hl : (Listing.into (Sink.ofCapacity none) .entries).sink.capacity = none := rfl
  have hd : (Sink.ofCapacity none).capacity = none := rfl
  have ho : (run ⟨"306\tA", clashingCountries⟩ (.into (Sink.ofCapacity none) .entries)
      (Sink.ofCapacity none)).value.outcome = .ok ⟨1, 0, [⟨2, "bad"⟩, ⟨5, "worse"⟩]⟩ := by
    rw [(contents_run hl hd).2, (arms_of_single ha hc).2]
    decide +kernel
  obtain ⟨-, -, hok⟩ :=
    run_of_rearranged_countries "306\tA" h (.into (Sink.ofCapacity none) .entries) hd
  exact ⟨hd, ho, hok _ ho⟩

end FlagState.Generation
