import FlagState.Proofs.Country.Respelling
import FlagState.Proofs.Generation.Output

/-!
What a run says about misread rows points at the table of countries as it was given: respelling leaves every
line where it was, and the supplementary rows behind them can all be read (`misreadings_countriesOf`).
-/
namespace FlagState
namespace Country

theorem Row.ofLine_ne_malformed_of_mem_supplement {line : Text} (h : line ∈ Spelling.supplement) :
    ofLine line ≠ .malformed := by
  intro hm
  have hs := List.mem_map_of_mem (f := ofLine) h
  rw [ofLine_supplement, hm, List.mem_map] at hs
  obtain ⟨c, -, hc⟩ := hs
  cases hc

end Country

namespace Tables

variable (tables : Tables)

/-- The lines of the countries that cannot be read even when they are respelt, with the numbers that they
have in the table as it was given. -/
def misreadings : List Country.Misreading :=
  ((Text.lines tables.countries).zipIdx 1).filterMap fun (raw, n) =>
    let line := Spelling.countryRules.apply raw
    if line ≠ [] ∧ Country.ofLine? line = none then some ⟨n, line⟩ else none

variable {tables} {m : Country.Misreading}

theorem mem_misreadings :
    m ∈ tables.misreadings ↔
      ∃ raw, 1 ≤ m.lineNumber ∧ (Text.lines tables.countries)[m.lineNumber - 1]? = some raw ∧
        m.line = Spelling.countryRules.apply raw ∧ Country.Row.ofLine m.line = .malformed := by
  obtain ⟨n, line⟩ := m
  simp only [misreadings, List.mem_filterMap, Option.ite_none_right_eq_some, Prod.exists, Option.some.injEq,
    List.mk_mem_zipIdx_iff_le_and_getElem?_sub, Country.Misreading.mk.injEq, Country.Row.ofLine_eq_malformed]
  constructor
  · rintro ⟨raw, _, ⟨hn, hr⟩, hm, rfl, rfl⟩
    exact ⟨raw, hn, hr, rfl, hm⟩
  · rintro ⟨raw, hn, hr, rfl, hm⟩
    exact ⟨raw, n, ⟨hn, hr⟩, hm, rfl, rfl⟩

end Tables

namespace Generation

variable (tables : Tables)

theorem misreadings_countriesOf : (countriesOf tables).2 = tables.misreadings := by
  have hs : (Spelling.supplement.zipIdx (1 + (Text.lines tables.countries).length)).filterMap
      Country.Index.misreading? = [] := by
    rw [List.filterMap_eq_nil_iff]
    rintro ⟨line, n⟩ h
    exact if_neg (Country.Row.ofLine_ne_malformed_of_mem_supplement (List.fst_mem_of_mem_zipIdx h))
  rw [countriesOf_eq, Country.Index.misreadings_ofTable, Tables.lines_countries_respelt, List.zipIdx_append,
    List.filterMap_append, List.length_map, hs, List.append_nil, List.zipIdx_map, List.filterMap_map]
  simp only [Tables.misreadings, Country.Index.misreading?, Function.comp_def, Prod.map_fst, Prod.map_snd, id_eq,
    Country.Row.ofLine_eq_malformed]

end Generation

theorem Tables.pairwise_misreadings (tables : Tables) :
    tables.misreadings.Pairwise fun m k => m.lineNumber < k.lineNumber := by
  rw [← Generation.misreadings_countriesOf, Generation.countriesOf_eq]
  exact Country.Index.pairwise_misreadings_ofTable _

namespace Generation

variable (tables : Tables)

/-- One line for each misread row. -/
theorem diagnosis_eq :
    diagnosis tables =
      (tables.misreadings.map fun m => ("Failed to parse: " ++ m.line ++ "\n" : Text)).flatten := by
  have hn : ("\n" : Text) = ['\n'] := by decide
  rw [diagnosis_eq_flatten, misreadings_countriesOf, hn]
  rfl

variable {tables} {l : Listing} {diagnostics : Sink}

/-- The diagnostics are written before anything is listed. -/
theorem diagnostics_run :
    (run tables l diagnostics).value.diagnostics = (diagnostics.write (diagnosis tables)).1 := by
  cases hd : (diagnostics.write (diagnosis tables)).2 with
  | false => rw [run_of_full_diagnostics hd]
  | true =>
    cases hl : (l.write (listed tables l.layout l.functionName)).2 with
    | false => rw [run_of_full_listing hd hl]
    | true => rw [run_of_room hd hl]

/-- A run that succeeds has room for all it writes, and ends as it would in sinks without limits. -/
theorem room_of_outcome_eq_ok {report : Report} (h : (run tables l diagnostics).value.outcome = .ok report) :
    (diagnostics.write (diagnosis tables)).2 = true ∧
      (l.write (listed tables l.layout l.functionName)).2 = true ∧ conclusion tables = .ok report := by
  cases hd : (diagnostics.write (diagnosis tables)).2 with
  | false =>
    rw [run_of_full_diagnostics hd] at h
    cases h
  | true =>
    cases hl : (l.write (listed tables l.layout l.functionName)).2 with
    | false =>
      rw [run_of_full_listing hd hl] at h
      cases h
    | true =>
      rw [run_of_room hd hl] at h
      exact ⟨rfl, rfl, h⟩

theorem misreadings_of_conclusion_eq_ok {report : Report} (h : conclusion tables = .ok report) :
    report.misreadings = tables.misreadings := by
  rw [conclusion_eq_arms, misreadings_countriesOf] at h
  split at h
  · obtain rfl := Except.ok.inj h
    rfl
  · cases h

/-- Diagnostics and report tell the lines that stay unreadable when respelt, in the order and under the
numbers of the table as it was given. Supplementary rows and the rest of the run leave no trace in them. -/
theorem run_reports_raw_lines (tables : Tables) (l : Listing) (diagnostics : Sink)
    (hd : diagnostics.capacity = none) :
    let r := (run tables l diagnostics).value
    r.diagnostics.contents = diagnostics.contents ++ Text.utf8
      (tables.misreadings.map fun m => ("Failed to parse: " ++ m.line ++ "\n" : Text)).flatten ∧
    (∀ report, r.outcome = .ok report → report.misreadings = tables.misreadings) ∧
    tables.misreadings.Pairwise (fun m k => m.lineNumber < k.lineNumber) ∧
    (∀ m ∈ tables.misreadings, m.line ∉ Spelling.supplement ∧ 1 ≤ m.lineNumber ∧
      ∃ raw, (Text.lines tables.countries)[m.lineNumber - 1]? = some raw ∧
        m.line = Spelling.countryRules.apply raw) ∧
    ∀ (others : Tables) (k : Listing), others.countries = tables.countries →
      (run others k diagnostics).value.diagnostics = r.diagnostics := by
  intro r
  refine ⟨?_, fun report h => ?_, tables.pairwise_misreadings, fun m hm => ?_, fun others k h => ?_⟩
  · rw [show r.diagnostics = _ from diagnostics_run, Sink.contents_write_of_unlimited hd, diagnosis_eq]
  · exact misreadings_of_conclusion_eq_ok (room_of_outcome_eq_ok h).2.2
  · obtain ⟨raw, hn, hr, hl, hbad⟩ := Tables.mem_misreadings.mp hm
    exact ⟨fun hs => Country.Row.ofLine_ne_malformed_of_mem_supplement hs hbad, hn, raw, hr, hl⟩
  · have hm : others.misreadings = tables.misreadings := by simp only [Tables.misreadings, h]
    rw [show r.diagnostics = _ from diagnostics_run, diagnostics_run, diagnosis_eq, diagnosis_eq, hm]

/-- A row that is readable, one that never is, one that respelling empties, and one without its number at
the end, where no line feed follows. The only allocation is unmatched. -/
def misreadTables : Tables := ⟨"201\tD", "\nA (b)  AA AAA 1\nB BB\n (c)\n\nC (d) CC CCC"⟩

theorem run_reports_raw_lines_unmatched :
    (Sink.ofCapacity none).capacity = none ∧
      misreadTables.misreadings = [⟨3, "B BB"⟩, ⟨6, "C CC CCC"⟩] ∧
      (run misreadTables (.into (Sink.ofCapacity none) .function) (Sink.ofCapacity none)).value.diagnostics.contents =
        Text.utf8 "Failed to parse: B BB\nFailed to parse: C CC CCC\n" := by
  have hm : misreadTables.misreadings = [⟨3, "B BB"⟩, ⟨6, "C CC CCC"⟩] := by
    rw [Tables.misreadings, Spelling.countryRules_eq_evaluated]
    decide +kernel
  have hr := (run_reports_raw_lines misreadTables (.into (Sink.ofCapacity none) .function)
    (Sink.ofCapacity none) rfl).1
  refine ⟨rfl, hm, hr.trans ?_⟩
  rw [hm]
  decide +kernel

end Generation
end FlagState
