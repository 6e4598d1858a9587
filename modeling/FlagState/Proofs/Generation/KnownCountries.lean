import FlagState.Proofs.Allocation.Respelling
import FlagState.Proofs.Generation.Reading

/-!
A run whose countries are all known lists one arm for each allocation (`run_of_known`). Apart from being
suppressed or not, an arm depends on its own allocation only (`exists_arm`).
-/
namespace FlagState

namespace Tables

variable {tables : Tables}

/-- In the published form every line that is not empty gives an allocation. -/
theorem linewiseAllocations_of_isTabular
    (h : ∀ line ∈ Text.lines tables.allocations, Allocation.isTabular line = true) :
    tables.linewiseAllocations = ((Text.lines tables.allocations).filter (· ≠ [])).map fun line =>
      ⟨line.take 3, Text.skipBlanks (Spelling.allocationRules.apply (line.drop 4))⟩ := by
  have hs := Spelling.withinNames_allocationRules
  rw [linewiseAllocations, ← Spelling.RuleSet.lines_apply hs.newline_not_mem]
  exact Allocation.ofLines_lines_apply h hs

theorem linewiseAllocations_row {a : Allocation} (h : a.Clean) (ht : tables.allocations = a.row) :
    tables.linewiseAllocations =
      [⟨a.mid, Text.skipBlanks (Spelling.allocationRules.apply a.country)⟩] := by
  have hl : Text.lines tables.allocations = [a.row] := by
    rw [ht, Text.lines_of_not_mem h.newline_not_mem_row]
  have hn : a.row ≠ [] := by simp [Allocation.row]
  rw [linewiseAllocations_of_isTabular (by simpa [hl] using h.isTabular_row), hl,
    List.filter_cons_of_pos (by simpa using hn), List.filter_nil, List.map_singleton, h.take_row, h.drop_row]

end Tables

/-- What the sink of `l` holds once `arms` are listed between the header and the footer. -/
def Listing.contentsWith (l : Listing) (arms : List Arm) : List UInt8 :=
  l.sink.contents ++ (l.layout.header l.functionName ++ (arms.map fun arm => arm.text ++ ['\n']).flatten ++
    l.layout.footer).utf8

namespace Generation

open Allocation (behind)

/-- The arms of a run in their order, suppressed ones included. -/
def arms (tables : Tables) : List Arm := (answersOf tables).filterMap Except.toOption

variable {tables : Tables} (hk : ∀ a ∈ tables.linewiseAllocations, (tables.code? a.country).isSome = true)

include hk

private theorem answersOf_of_known :
    answersOf tables =
      ((behind none tables.linewiseAllocations).map (Matching.arm (countriesOf tables).1)).map .ok := by
  have hi : ∀ a ∈ tables.linewiseAllocations, ((countriesOf tables).1.alpha2? a.country).isSome = true := by
    simpa only [alpha2?_countriesOf] using hk
  rw [answersOf_eq, List.map_map]
  exact Matching.answersAfter_of_known _ hi none

theorem arms_of_known :
    arms tables = (behind none tables.linewiseAllocations).map (Matching.arm (countriesOf tables).1) := by
  rw [arms, answersOf_of_known hk, List.filterMap_map]
  exact List.filterMap_some

theorem length_arms : (arms tables).length = tables.linewiseAllocations.length := by
  rw [arms_of_known hk, List.length_map, Allocation.length_behind]

theorem exists_arm {i : Nat} {a : Allocation} (ha : tables.linewiseAllocations[i]? = some a) :
    ∃ arm, (arms tables)[i]? = some arm ∧ arm.mid = a.mid ∧ arm.country = a.country ∧
      tables.code? a.country = some arm.alpha2 := by
  obtain ⟨previous, hp⟩ := Allocation.exists_behind none ha
  obtain ⟨alpha2, hc⟩ := Option.isSome_iff_exists.mp (hk a (List.mem_of_getElem? ha))
  refine ⟨Matching.arm (countriesOf tables).1 (previous, a), ?_, rfl, rfl, ?_⟩
  · rw [arms_of_known hk, List.getElem?_map, hp, Option.map_some]
  · simp only [Matching.arm, alpha2?_countriesOf, hc, Option.getD_some]

/-- Sinks without limits receive all arms between the header and the footer, and nothing goes to the
diagnostics. -/
theorem run_of_known (hm : (countriesOf tables).2 = []) {l : Listing} (hl : l.sink.capacity = none)
    (diagnostics : Sink) :
    let r := (run tables l diagnostics).value
    r.outcome = .ok ⟨(arms tables).countP (!·.suppressed), (arms tables).countP (·.suppressed), []⟩ ∧
      r.listing.sink.contents = l.contentsWith (arms tables) ∧ r.diagnostics = diagnostics := by
  have ha : answersOf tables = (arms tables).map .ok ++ [] := by
    rw [List.append_nil, arms_of_known hk, answersOf_of_known hk]
  have hd : diagnostics.write (diagnosis tables) = (diagnostics, true) := by
    unfold diagnosis
    rw [hm]
    exact Sink.write_nil diagnostics
  have hw : (l.write (listed tables l.layout l.functionName)).2 = true :=
    Sink.complete_write_of_unlimited hl _
  rw [run_of_room (by rw [hd]) hw, hd]
  refine ⟨?_, ?_, rfl⟩
  · unfold conclusion
    rw [hm, ha, conclude_append, foldl_add, Nat.zero_add, Nat.zero_add]
    rfl
  · unfold listed Listing.contentsWith
    rw [ha, body_append, List.append_assoc]
    rw [Listing.sink_flush, Listing.sink_write, Sink.contents_flush, Sink.contents_write_of_unlimited hl]
    rfl

end Generation
end FlagState
