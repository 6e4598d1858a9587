import Mathlib.Data.List.SplitBy
import FlagState.Proofs.Country.Index
import FlagState.Proofs.Generation.Writing
import FlagState.Proofs.Matching
import FlagState.Proofs.Tables

/-!
What a run lists can be read off its tables line by line: each line is respelt and read as if it stood
alone, and each allocation is compared with the one right before it (`run_reads_linewise`).
-/
namespace FlagState
namespace Layout

/-- The lines before the arms. Only a function has any. -/
def opening (functionName : Text) : Layout → List Text
  | entries => []
  | function =>
    ["/// Decode ISO 3166 country code from the MID part of an MMSI.",
     "pub fn " ++ functionName ++ "(mid: u32) -> Option<&'static str> \x7b",
     "    match mid \x7b"]

/-- The lines behind the arms. -/
def ending : Layout → List Text
  | entries => []
  | function => ["        _ => None,", "    \x7d", "\x7d"]

theorem header_eq_opening (layout : Layout) (functionName : Text) :
    layout.header functionName = (layout.opening functionName).flatMap (· ++ ['\n']) := by
  cases layout with
  | entries => rfl
  | function =>
    unfold header opening
    repeat rw [String.toList_ofList]
    simp only [List.flatMap_cons, List.flatMap_nil, List.append_nil, List.append_assoc]
    rfl

theorem footer_eq_ending (layout : Layout) : layout.footer = layout.ending.flatMap (· ++ ['\n']) := by
  cases layout <;> decide

end Layout

namespace Tables

variable (tables : Tables)

/-- The countries of lines respelt one by one, and behind them the supplementary ones. -/
def linewiseCountries : List Country :=
  Country.ofLines ((Text.lines tables.countries).map Spelling.countryRules.apply ++ Spelling.supplement)

/-- The allocations of lines respelt one by one. -/
def linewiseAllocations : List Allocation :=
  Allocation.ofLines ((Text.lines tables.allocations).map Spelling.allocationRules.apply)

theorem linewiseAllocations_eq_evaluated : tables.linewiseAllocations = Allocation.ofLines
    ((Text.lines tables.allocations).map Spelling.evaluatedAllocationRules.val.apply) := by
  rw [linewiseAllocations, ← Spelling.allocationRules_eq_evaluated]

/-- The code of the last country of a name. -/
def code? (name : Text) : Option Text :=
  (Country.lastNamed? tables.linewiseCountries name).map Country.alpha2

/-- The line of an allocation in a listing. -/
def entry (p : Option Allocation × Allocation) : Text :=
  (if Allocation.repeats p then "//" else "") ++ List.replicate 12 ' ' ++ p.2.mid ++ " => Some(\"" ++
    (tables.code? p.2.country).getD [] ++ "\"), // " ++ p.2.country ++ "\n"

def entries (as : List Allocation) : Text := ((Allocation.behind none as).map tables.entry).flatten

end Tables

namespace Generation

open Allocation (behind behind_cons repeats)

section Counts

/-- The arms that are not suppressed begin the blocks of equal neighbours. -/
private theorem length_splitBy_loop {α : Type} (r : α → α → Bool) (as : List α) (a : α) (g : List α)
    (gs : List (List α)) :
    (List.splitBy.loop r as a g gs).length =
      gs.length + 1 + (((a :: as).zip as).countP fun p => !r p.1 p.2) := by
  induction as generalizing a g gs with
  | nil => simp [List.splitBy.loop]
  | cons b as ih =>
    rw [List.splitBy.loop, List.zip_cons_cons, List.countP_cons]
    cases hr : r a b with
    | true => simp [ih]
    | false =>
      simp only [ih, List.length_cons, Bool.not_false, if_true]
      omega

private theorem countP_behind_some (a : Allocation) (as : List Allocation) :
    (behind (some a) as).countP (fun p => !repeats p) =
      ((a.mid :: as.map Allocation.mid).zip (as.map Allocation.mid)).countP fun p => !(p.1 == p.2) := by
  induction as generalizing a with
  | nil => rfl
  | cons b as ih =>
    rw [behind_cons, List.countP_cons, ih b, List.map_cons, List.zip_cons_cons, List.countP_cons]
    simp [repeats]

theorem countP_behind_eq_blocks (as : List Allocation) :
    (behind none as).countP (fun p => !repeats p) =
      ((as.map Allocation.mid).splitBy (· == ·)).length := by
  cases as with
  | nil => rfl
  | cons a as =>
    rw [behind_cons, List.countP_cons, countP_behind_some, List.map_cons, List.splitBy,
      length_splitBy_loop]
    simp [repeats, Nat.add_comm]

theorem foldl_add (r : Report) (arms : List Arm) :
    arms.foldl Report.add r =
      ⟨r.active + arms.countP (!·.suppressed), r.suppressed + arms.countP (·.suppressed),
        r.misreadings⟩ := by
  induction arms generalizing r with
  | nil => rfl
  | cons arm arms ih =>
    rw [List.foldl_cons, ih, List.countP_cons, List.countP_cons, Report.add]
    cases arm.suppressed <;> simp [Nat.add_comm, Nat.add_assoc]

end Counts

theorem body_append (layout : Layout) (arms : List Arm) (answers : List Answer) :
    body layout (arms.map .ok ++ answers) =
      (arms.map fun arm => arm.text ++ ['\n']).flatten ++ body layout answers := by
  induction arms with
  | nil => rfl
  | cons arm arms ih => simp only [List.map_cons, List.cons_append, body, ih, List.flatten_cons,
      List.append_assoc]

theorem conclude_append (r : Report) (arms : List Arm) (answers : List Answer) :
    conclude r (arms.map .ok ++ answers) = conclude (arms.foldl Report.add r) answers := by
  induction arms generalizing r with
  | nil => rfl
  | cons arm arms ih => simp only [List.map_cons, List.cons_append, conclude, ih, List.foldl_cons]

section Run

variable (tables : Tables)

theorem find?_countriesOf (name : Text) :
    (countriesOf tables).1.find? name = Country.lastNamed? tables.linewiseCountries name := by
  unfold countriesOf
  rw [Country.Index.find?_ofTable, Tables.lines_countries_respelt]
  rfl

theorem alpha2?_countriesOf (name : Text) :
    (countriesOf tables).1.alpha2? name = tables.code? name := by
  rw [Country.Index.alpha2?, find?_countriesOf, Tables.code?]

theorem answersOf_eq :
    answersOf tables = Matching.answersAfter (countriesOf tables).1 none tables.linewiseAllocations := by
  unfold answersOf
  simp only [Matching.start, Matching.answers, Allocation.ofTable, Tables.respelt, Noted.value_bind,
    Noted.value_pure, Spelling.RuleSet.respell, Tables.linewiseAllocations,
    Spelling.RuleSet.lines_apply Spelling.withinNames_allocationRules.newline_not_mem]

theorem text_arm (p : Option Allocation × Allocation) :
    (Matching.arm (countriesOf tables).1 p).text ++ ['\n'] = tables.entry p := by
  have hi : Arm.indent = List.replicate 12 ' ' := by decide
  have hn : ("\n" : Text) = ['\n'] := by decide
  simp only [Arm.text, Matching.arm, alpha2?_countriesOf, Tables.entry, hi, hn, List.append_assoc]

variable {tables} {known rest : List Allocation} {answers : List Answer}
  (hk : ∀ a ∈ known, (tables.code? a.country).isSome = true)
  (hr : ∀ digits, Matching.answersAfter (countriesOf tables).1 digits rest = answers)
  (he : tables.linewiseAllocations = known ++ rest)

include hk hr he

private theorem answersOf_append :
    answersOf tables =
      ((behind none known).map (Matching.arm (countriesOf tables).1)).map .ok ++ answers := by
  have hk' : ∀ a ∈ known, ((countriesOf tables).1.alpha2? a.country).isSome = true := by
    simpa only [alpha2?_countriesOf] using hk
  rw [answersOf_eq, he, List.map_map]
  exact Matching.answersAfter_append _ hk' hr none

private theorem listed_eq (layout : Layout) (functionName : Text) :
    listed tables layout functionName =
      layout.header functionName ++ tables.entries known ++ body layout answers := by
  unfold listed
  rw [answersOf_append hk hr he, body_append, List.map_map, List.append_assoc, Tables.entries]
  simp only [Function.comp_def, text_arm]

private theorem conclusion_eq :
    conclusion tables = conclude
      ⟨(behind none known).countP (fun p => !repeats p), (behind none known).countP repeats,
        (countriesOf tables).2⟩ answers := by
  unfold conclusion
  rw [answersOf_append hk hr he, conclude_append, foldl_add, List.countP_map, List.countP_map,
    Nat.zero_add, Nat.zero_add]
  rfl

end Run

theorem contents_run {tables : Tables} {l : Listing} {diagnostics : Sink}
    (hl : l.sink.capacity = none) (hd : diagnostics.capacity = none) :
    let r := (run tables l diagnostics).value
    r.listing.sink.contents = l.sink.contents ++ (listed tables l.layout l.functionName).utf8 ∧
      r.outcome = conclusion tables := by
  rw [run_of_room (Sink.complete_write_of_unlimited hd _) (Sink.complete_write_of_unlimited hl _)]
  refine ⟨?_, rfl⟩
  rw [Listing.sink_flush, Listing.sink_write, Sink.contents_flush, Sink.contents_write_of_unlimited hl]

/-- Sinks without limits receive the opening, a line for each allocation up to the first whose country
is unknown, and, if there is none, the ending. -/
theorem run_reads_linewise (tables : Tables) (l : Listing) (diagnostics : Sink)
    (hl : l.sink.capacity = none) (hd : diagnostics.capacity = none) :
    let as := tables.linewiseAllocations
    let opening : Text := (l.layout.opening l.functionName).flatMap (· ++ ['\n'])
    let ending : Text := l.layout.ending.flatMap (· ++ ['\n'])
    let r := (run tables l diagnostics).value
    ((∀ a ∈ as, (tables.code? a.country).isSome = true) →
      r.listing.sink.contents =
        l.sink.contents ++ (opening ++ tables.entries as ++ ending).utf8 ∧
      ∃ report, r.outcome = .ok report ∧ report.total = as.length ∧
        report.suppressed = (behind none as).countP repeats ∧
        report.active = ((as.map Allocation.mid).splitBy (· == ·)).length) ∧
    ∀ a, as.find? (fun b => (tables.code? b.country).isNone) = some a →
      r.listing.sink.contents = l.sink.contents ++
        (opening ++ tables.entries (as.takeWhile fun b => (tables.code? b.country).isSome)).utf8 ∧
      r.outcome = .error (.unmatched a) := by
  intro as opening ending r
  obtain ⟨hc, ho⟩ : r.listing.sink.contents = _ ∧ r.outcome = _ := contents_run hl hd
  refine ⟨fun hk => ?_, fun a hf => ?_⟩
  · have he : as = as ++ [] := (List.append_nil as).symm
    have hr (digits : Option Text) :
        Matching.answersAfter (countriesOf tables).1 digits [] = [] := rfl
    have hb : body l.layout [] = ending := Layout.footer_eq_ending l.layout
    rw [hc, ho, listed_eq hk hr he, conclusion_eq hk hr he, Layout.header_eq_opening, hb]
    refine ⟨rfl, _, rfl, ?_, rfl, countP_behind_eq_blocks as⟩
    have hs := List.length_eq_countP_add_countP repeats (l := behind none as)
    simp only [Allocation.length_behind, Bool.not_eq_true, Bool.decide_eq_false] at hs
    exact (Nat.add_comm _ _).trans hs.symm
  · obtain ⟨hn, known, rest, he, hk⟩ := List.find?_eq_some_iff_append.mp hf
    have hk' : ∀ b ∈ known, (tables.code? b.country).isSome = true := by
      simpa using hk
    have ha : (countriesOf tables).1.alpha2? a.country = none := by
      simpa [alpha2?_countriesOf] using hn
    have hr (digits : Option Text) := Matching.answersAfter_unknown _ ha rest digits
    have ht : as.takeWhile (fun b => (tables.code? b.country).isSome) = known := by
      rw [he, List.takeWhile_append_of_pos hk', List.takeWhile_cons_of_neg, List.append_nil]
      simpa using hn
    rw [hc, ho, ht, listed_eq hk' hr he, conclusion_eq hk' hr he, Layout.header_eq_opening]
    refine ⟨?_, rfl⟩
    rw [show body l.layout [.error a] = [] from rfl, List.append_nil]

/-- Two allocations of the same digits, and one whose country is unknown. -/
def unmatchedTables : Tables :=
  ⟨"306\tA (b)\n-\n306\tB (c\n201\tD\n307\tA", "B (c  BB BBB 2\nA\tAA AAA 1\nD DD"⟩

theorem linewiseAllocations_unmatchedTables : unmatchedTables.linewiseAllocations =
    [⟨"306", "A"⟩, ⟨"306", "B (c"⟩, ⟨"201", "D"⟩, ⟨"307", "A"⟩] := by
  rw [Tables.linewiseAllocations_eq_evaluated]
  decide +kernel

/-- The same without the allocation whose country is unknown. -/
def matchedTables : Tables := ⟨"306\tA (b)\n-\n306\tB (c\n307\tA", unmatchedTables.countries⟩

/-- A listing without a limit, for a function that has a name of its own. -/
def countryOf (layout : Layout) : Listing :=
  (Listing.into (Sink.ofCapacity none) layout).withFunctionName "country_of"

/-- A function stands around the lines of known countries, and begins those before an unknown one. Arms alone
have nothing around them. -/
theorem run_reads_linewise_layouts :
    (countryOf .function).sink.capacity = none ∧ (countryOf .entries).sink.capacity = none ∧
      (Sink.ofCapacity none).capacity = none ∧
      (∀ a ∈ matchedTables.linewiseAllocations, (matchedTables.code? a.country).isSome = true) ∧
      (run matchedTables (countryOf .function) (Sink.ofCapacity none)).value.listing.sink.contents =
        Text.utf8 ("/// Decode ISO 3166 country code from the MID part of an MMSI.\n" ++
          "pub fn country_of(mid: u32) -> Option<&'static str> \x7b\n" ++
          "    match mid \x7b\n" ++
          "            306 => Some(\"AA\"), // A\n" ++
          "//            306 => Some(\"BB\"), // B (c\n" ++
          "            307 => Some(\"AA\"), // A\n" ++
          "        _ => None,\n    \x7d\n\x7d\n") ∧
      (∃ report, (run matchedTables (countryOf .function) (Sink.ofCapacity none)).value.outcome = .ok report ∧
        report.total = 3 ∧ report.suppressed = 1 ∧ report.active = 2) ∧
      (run matchedTables (countryOf .entries) (Sink.ofCapacity none)).value.listing.sink.contents =
        Text.utf8 ("            306 => Some(\"AA\"), // A\n" ++
          "//            306 => Some(\"BB\"), // B (c\n" ++
          "            307 => Some(\"AA\"), // A\n") ∧
      (run unmatchedTables (countryOf .function) (Sink.ofCapacity none)).value.listing.sink.contents =
        Text.utf8 ("/// Decode ISO 3166 country code from the MID part of an MMSI.\n" ++
          "pub fn country_of(mid: u32) -> Option<&'static str> \x7b\n" ++
          "    match mid \x7b\n" ++
          "            306 => Some(\"AA\"), // A\n" ++
          "//            306 => Some(\"BB\"), // B (c\n") ∧
      (run unmatchedTables (countryOf .entries) (Sink.ofCapacity none)).value.listing.sink.contents =
        Text.utf8 ("            306 => Some(\"AA\"), // A\n" ++
          "//            306 => Some(\"BB\"), // B (c\n") ∧
      (run unmatchedTables (countryOf .entries) (Sink.ofCapacity none)).value.outcome =
        .error (.unmatched ⟨"201", "D"⟩) := by
  have ha : matchedTables.linewiseAllocations = [⟨"306", "A"⟩, ⟨"306", "B (c"⟩, ⟨"307", "A"⟩] := by
    rw [Tables.linewiseAllocations_eq_evaluated]
    decide +kernel
  have hk : ∀ a ∈ matchedTables.linewiseAllocations, (matchedTables.code? a.country).isSome = true := by
    rw [ha]
    decide +kernel
  have hf : unmatchedTables.linewiseAllocations.find?
      (fun a => (unmatchedTables.code? a.country).isNone) = some ⟨"201", "D"⟩ := by
    rw [linewiseAllocations_unmatchedTables]
    decide +kernel
  have known (layout : Layout) :=
    (run_reads_linewise matchedTables (countryOf layout) (Sink.ofCapacity none) rfl rfl).1 hk
  have unknown (layout : Layout) :=
    (run_reads_linewise unmatchedTables (countryOf layout) (Sink.ofCapacity none) rfl rfl).2 _ hf
  rw [ha] at known
  rw [linewiseAllocations_unmatchedTables] at unknown
  obtain ⟨report, hr, ht, hs, hb⟩ := (known .function).2
  refine ⟨rfl, rfl, rfl, hk, (known .function).1.trans ?_, ⟨report, hr, ht, hs.trans ?_, hb.trans ?_⟩,
    (known .entries).1.trans ?_, (unknown .function).1.trans ?_, (unknown .entries).1.trans ?_,
    (unknown .entries).2⟩
  all_goals decide +kernel

end Generation
end FlagState
