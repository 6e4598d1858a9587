import FlagState.Proofs.Generation.KnownCountries
import FlagState.Proofs.Matching.Seams

/-!
What a run lists and how it ends, told by its arms and by the first allocation whose country is unknown
(`listed_eq_arms`, `conclusion_eq_arms`). The bytes that reach a listing are the first ones of these
(`contents_append_output`), and all of them if it has no limit (`output_eq`).
-/
namespace FlagState

/-- The lines of arms as a listing holds them. -/
def Arm.lines (as : List Arm) : Text := (as.map fun a => a.text ++ ['\n']).flatten

theorem Arm.lines_append (as bs : List Arm) : lines (as ++ bs) = lines as ++ lines bs := by
  rw [lines, List.map_append, List.flatten_append]
  rfl

namespace Generation

section Arms

variable (tables : Tables)

/-- The allocation whose country ends the run, if there is one. -/
def unmatched? : Option Allocation :=
  tables.linewiseAllocations.find? fun a => (tables.code? a.country).isNone

/-- The footer, unless the run ends before it. -/
def closing (layout : Layout) : Text := if (unmatched? tables).isNone then layout.footer else []

theorem closing_entries : closing tables .entries = [] := by
  unfold closing
  split <;> rfl

theorem arms_eq_armsAfter :
    arms tables = Matching.armsAfter (countriesOf tables).1 none tables.linewiseAllocations := by
  rw [arms, answersOf_eq, Matching.armsAfter]

theorem unmatched?_eq_unknown? :
    unmatched? tables = Matching.unknown? (countriesOf tables).1 tables.linewiseAllocations := by
  simp only [unmatched?, Matching.unknown?, alpha2?_countriesOf]

theorem answersOf_eq_arms :
    answersOf tables = (arms tables).map .ok ++ (unmatched? tables).toList.map .error := by
  rw [answersOf_eq, arms_eq_armsAfter, unmatched?_eq_unknown?]
  exact Matching.answersAfter_eq _ none _

theorem listed_eq_arms (layout : Layout) (functionName : Text) :
    listed tables layout functionName =
      layout.header functionName ++ Arm.lines (arms tables) ++ closing tables layout := by
  unfold listed
  rw [answersOf_eq_arms, body_append, List.append_assoc, closing, Arm.lines]
  cases unmatched? tables <;> rfl

theorem conclusion_eq_arms :
    conclusion tables =
      match unmatched? tables with
      | none => .ok ⟨(arms tables).countP (!·.suppressed), (arms tables).countP (·.suppressed),
          (countriesOf tables).2⟩
      | some a => .error (.unmatched a) := by
  unfold conclusion
  rw [answersOf_eq_arms, conclude_append, foldl_add, Nat.zero_add, Nat.zero_add]
  cases unmatched? tables <;> rfl

variable {tables}

/-- A table of one allocation whose country is known. -/
theorem arms_of_single {a : Allocation} (h : tables.linewiseAllocations = [a]) {alpha2 : Text}
    (hc : tables.code? a.country = some alpha2) :
    arms tables = [⟨a.mid, alpha2, a.country, false⟩] ∧
      conclusion tables = .ok ⟨1, 0, (countriesOf tables).2⟩ := by
  have hx := hc
  rw [← alpha2?_countriesOf] at hx
  have ha : arms tables = [⟨a.mid, alpha2, a.country, false⟩] := by
    rw [arms_eq_armsAfter, h, Matching.armsAfter_cons_of_known hx]
    rfl
  have hu : unmatched? tables = none := by simp [unmatched?, h, hc]
  exact ⟨ha, by rw [conclusion_eq_arms, hu, ha]; rfl⟩

end Arms

/-- What a run adds to the contents of its listing. -/
def output (tables : Tables) (l : Listing) (diagnostics : Sink) : List UInt8 :=
  (run tables l diagnostics).value.listing.sink.contents.drop l.sink.contents.length

variable (tables : Tables) {l : Listing} {diagnostics : Sink}

/-- The contents of a listing only grow, by bytes that a listing without limits would take as well. -/
theorem contents_append_output (l : Listing) (diagnostics : Sink) :
    (run tables l diagnostics).value.listing.sink.contents =
        l.sink.contents ++ output tables l diagnostics ∧
      output tables l diagnostics <+: (listed tables l.layout l.functionName).utf8 := by
  have h : ∃ bytes, (run tables l diagnostics).value.listing.sink.contents = l.sink.contents ++ bytes ∧
      bytes <+: (listed tables l.layout l.functionName).utf8 := by
    have hw : (l.sink.write (listed tables l.layout l.functionName)).1.contents =
        l.sink.contents ++ l.sink.fitting (listed tables l.layout l.functionName).utf8 :=
      Sink.contents_write _ _
    cases hd : (diagnostics.write (diagnosis tables)).2 with
    | false =>
      rw [run_of_full_diagnostics hd]
      exact ⟨[], (List.append_nil _).symm, List.nil_prefix⟩
    | true =>
      cases hl : (l.write (listed tables l.layout l.functionName)).2 with
      | false =>
        rw [run_of_full_listing hd hl]
        exact ⟨_, hw, l.sink.isPrefix_fitting _⟩
      | true =>
        rw [run_of_room hd hl]
        exact ⟨_, hw, l.sink.isPrefix_fitting _⟩
  obtain ⟨bytes, hc, hp⟩ := h
  have ho : output tables l diagnostics = bytes := by rw [output, hc, List.drop_left]
  rw [ho]
  exact ⟨hc, hp⟩

theorem output_eq (hl : l.sink.capacity = none) (hd : diagnostics.capacity = none) :
    output tables l diagnostics = (listed tables l.layout l.functionName).utf8 := by
  rw [output, (contents_run hl hd).1, List.drop_left]

end Generation
end FlagState
