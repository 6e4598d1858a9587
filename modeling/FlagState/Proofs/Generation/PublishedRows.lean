import FlagState.Proofs.Generation.KnownCountries
import FlagState.Proofs.Tables.Published

/-!
Whatever table is put together from published rows, the run over it succeeds, and each row is listed as
in the run over the whole published table (`run_of_published_rows`).
-/
namespace FlagState

open Spelling (allocationRules)

namespace Allocation

/-- The lines that are not empty. -/
def rows (table : Text) : List Text := (Text.lines table).filter (· ≠ [])

/-- Every line is empty or a row of the published table. -/
def FromPublished (table : Text) : Prop := ∀ line ∈ rows table, line ∈ rows publishedTable

instance : DecidablePred FromPublished := fun table => List.decidableBAll _ (rows table)

variable {table : Text} (h : FromPublished table)

theorem rows_publishedTable : rows publishedTable = published.map row := by
  have hr : ∀ line ∈ published.map row, line ≠ [] := by
    intro line hl
    obtain ⟨a, -, rfl⟩ := List.mem_map.mp hl
    simp [row]
  have hf : (published.map row).filter (· ≠ []) = published.map row :=
    List.filter_eq_self.mpr (by simpa using hr)
  rw [rows, lines_publishedTable, List.cons_append, List.filter_cons_of_neg (by simp), List.filter_append,
    hf, List.filter_cons_of_neg (by simp), List.filter_nil, List.append_nil]

include h

theorem FromPublished.exists_row {line : Text} (hl : line ∈ Text.lines table) (hn : line ≠ []) :
    ∃ a ∈ published, a.row = line := by
  have hm := h line (List.mem_filter.mpr ⟨hl, by simpa using hn⟩)
  rwa [rows_publishedTable, List.mem_map] at hm

theorem FromPublished.isTabular {line : Text} (hl : line ∈ Text.lines table) : isTabular line = true := by
  by_cases hn : line = []
  · rw [hn]
    rfl
  · obtain ⟨a, ha, rfl⟩ := h.exists_row hl hn
    exact (clean_published a ha).isTabular_row

/-- Names of the index stay as they are, so that a second pass finds nothing to do. -/
theorem FromPublished.apply_apply {line : Text} (hl : line ∈ Text.lines table) :
    allocationRules.apply (allocationRules.apply line) = allocationRules.apply line := by
  by_cases hn : line = []
  · rw [hn, Spelling.RuleSet.apply_nil, Spelling.RuleSet.apply_nil]
  · obtain ⟨a, ha, rfl⟩ := h.exists_row hl hn
    obtain ⟨c, hc, hr, he⟩ := exists_indexed ha
    have hs := Spelling.withinNames_allocationRules
    have hclean : Clean ⟨a.mid, c.name⟩ :=
      ⟨(clean_published a ha).length_mid, (clean_published a ha).digits, (Country.name_indexed hc).2.1⟩
    have hfix : allocationRules.apply c.name = c.name := by
      simpa [Text.qualifiers] using Country.allocationRules_apply_indexed hc hr (List.forall_mem_nil _)
    rw [(clean_published a ha).apply_row hs, he, hclean.apply_row hs, hfix]

theorem FromPublished.respelling_twice :
    allocationRules.apply (allocationRules.apply table) = allocationRules.apply table := by
  have hs := Spelling.withinNames_allocationRules.newline_not_mem
  refine Spelling.RuleSet.apply_eq_self_of_lines hs fun line hl => ?_
  rw [Spelling.RuleSet.lines_apply hs, List.mem_map] at hl
  obtain ⟨raw, hm, rfl⟩ := hl
  exact h.apply_apply hm

end Allocation

namespace Generation

open Allocation (FromPublished rows)

section Run

variable {tables : Tables} (hp : tables.countries = Country.publishedTable)
  (h : FromPublished tables.allocations)

include h

private theorem linewiseAllocations_eq :
    tables.linewiseAllocations = (rows tables.allocations).map fun line =>
      ⟨line.take 3, Text.skipBlanks (allocationRules.apply (line.drop 4))⟩ :=
  Tables.linewiseAllocations_of_isTabular fun _ hl => h.isTabular hl

include hp

private theorem known_of_fromPublished :
    ∀ a ∈ tables.linewiseAllocations, (tables.code? a.country).isSome = true := by
  intro b hb
  rw [linewiseAllocations_eq h, List.mem_map] at hb
  obtain ⟨line, hl, rfl⟩ := hb
  have hm := h line hl
  rw [Allocation.rows_publishedTable, List.mem_map] at hm
  obtain ⟨a, ha, rfl⟩ := hm
  obtain ⟨c, hc, -, he⟩ := Allocation.exists_indexed ha
  rw [(Allocation.clean_published a ha).drop_row, he, (Country.name_indexed hc).2.2, Tables.code?,
    Tables.linewiseCountries_published hp, Option.isSome_map, Country.isSome_lastNamed? hc]

/-- What an arm holds depends on its row only, not on the table around it. -/
private theorem exists_arm_of_row {i : Nat} {line : Text} (hi : (rows tables.allocations)[i]? = some line) :
    ∃ arm, (arms tables)[i]? = some arm ∧ arm.mid = line.take 3 ∧
      arm.country = Text.skipBlanks (allocationRules.apply (line.drop 4)) ∧
      (Country.lastNamed? Country.indexed arm.country).map Country.alpha2 = some arm.alpha2 := by
  have ha := linewiseAllocations_eq h
  have hg := congrArg (·[i]?) ha
  simp only [List.getElem?_map, hi, Option.map_some] at hg
  obtain ⟨arm, harm, hm, hc, hx⟩ := exists_arm (known_of_fromPublished hp h) hg
  dsimp only at hm hc
  rw [Tables.code?, Tables.linewiseCountries_published hp, ← hc] at hx
  exact ⟨arm, harm, hm, hc, hx⟩

private theorem run_of_fromPublished {l : Listing} (hl : l.sink.capacity = none) (diagnostics : Sink) :
    let r := (run tables l diagnostics).value
    (∃ report, r.outcome = .ok report ∧ report.misreadings = [] ∧
        report.total = (rows tables.allocations).length) ∧
      r.listing.sink.contents = l.contentsWith (arms tables) ∧ r.diagnostics = diagnostics ∧
      (arms tables).length = (rows tables.allocations).length := by
  have hk := known_of_fromPublished hp h
  have hlen : (arms tables).length = (rows tables.allocations).length := by
    rw [length_arms hk, linewiseAllocations_eq h, List.length_map]
  obtain ⟨ho, hs, hd⟩ := run_of_known hk (Tables.misreadings_published hp) hl diagnostics
  refine ⟨⟨_, ho, rfl, ?_⟩, hs, hd, hlen⟩
  have hsum := List.length_eq_countP_add_countP (·.suppressed) (l := arms tables)
  simp only [Bool.not_eq_true, Bool.decide_eq_false] at hsum
  rw [Report.total, Nat.add_comm, ← hsum, hlen]

end Run

/-- With the published tables a run can only fail for want of room. -/
theorem exists_report_published {l : Listing} (hl : l.sink.capacity = none) (diagnostics : Sink) :
    ∃ report, (run Tables.published l diagnostics).value.outcome = .ok report := by
  have hp : Tables.published.countries = Country.publishedTable := by rw [Tables.published]
  have hr : FromPublished Tables.published.allocations := by
    rw [Tables.published]
    exact fun _ hm => hm
  obtain ⟨⟨report, ho, -⟩, -⟩ := run_of_fromPublished hp hr hl diagnostics
  exact ⟨report, ho⟩

/-- A table of published rows, in whatever order and however often each, is listed whole: every row gets
the digits, the code and the name that it gets in the run over the whole published table. A second pass of
the rules finds nothing to do. -/
theorem run_of_published_rows {t : Text} (h : FromPublished t) {l : Listing} (hl : l.sink.capacity = none)
    (diagnostics : Sink) :
    let tables : Tables := ⟨t, Country.publishedTable⟩
    let r := (run tables l diagnostics).value
    (∃ report, r.outcome = .ok report ∧ report.misreadings = [] ∧ report.total = (rows t).length) ∧
      r.listing.sink.contents = l.contentsWith (arms tables) ∧ r.diagnostics = diagnostics ∧
      (arms tables).length = (rows t).length ∧
      (run Tables.published l diagnostics).value.listing.sink.contents =
        l.contentsWith (arms Tables.published) ∧
      (∀ (i j : Nat) (line : Text), (rows t)[i]? = some line →
        (rows Allocation.publishedTable)[j]? = some line →
          ∃ a b : Arm, (arms tables)[i]? = some a ∧ (arms Tables.published)[j]? = some b ∧
            a.mid = b.mid ∧ a.alpha2 = b.alpha2 ∧ a.country = b.country) ∧
      allocationRules.apply (allocationRules.apply t) = allocationRules.apply t := by
  dsimp only
  have hp : (⟨t, Country.publishedTable⟩ : Tables).countries = Country.publishedTable := rfl
  have hwp : Tables.published.countries = Country.publishedTable := by rw [Tables.published]
  have hw : FromPublished Tables.published.allocations := by
    rw [Tables.published]
    exact fun _ hm => hm
  obtain ⟨ho, hs, hd, hlen⟩ := run_of_fromPublished hp h hl diagnostics
  obtain ⟨-, hws, -, -⟩ := run_of_fromPublished hwp hw hl diagnostics
  refine ⟨ho, hs, hd, hlen, hws, fun i j line hi hj => ?_, h.respelling_twice⟩
  obtain ⟨a, hia, ham, hac, hax⟩ := exists_arm_of_row hp h hi
  obtain ⟨b, hjb, hbm, hbc, hbx⟩ := exists_arm_of_row hwp hw hj
  have hc : a.country = b.country := hac.trans hbc.symm
  rw [hc, hbx, Option.some.injEq] at hax
  exact ⟨a, b, hia, hjb, ham.trans hbm.symm, hax.symm, hc⟩

/-- The first published row behind the last one, which is there twice, and a blank line. -/
def scatteredRows : Text :=
  "775\tVenezuela (Bolivarian Republic of)\n775\tVenezuela (Bolivarian Republic of)\n\n" ++
    "201\tAlbania (Republic of)"

theorem run_of_published_rows_scattered :
    FromPublished scatteredRows ∧
      (∃ report, (run ⟨scatteredRows, Country.publishedTable⟩ (.into (Sink.ofCapacity none) .function)
        (Sink.ofCapacity none)).value.outcome = .ok report ∧ report.total = 3) ∧
      ∃ a b : Arm, (arms ⟨scatteredRows, Country.publishedTable⟩)[2]? = some a ∧
        (arms Tables.published)[0]? = some b ∧ a.alpha2 = b.alpha2 := by
  have hr : rows scatteredRows = (["775\tVenezuela (Bolivarian Republic of)",
      "775\tVenezuela (Bolivarian Republic of)", "201\tAlbania (Republic of)"] : List Text) := by
    decide +kernel
  have hp : (rows Allocation.publishedTable)[0]? = some ("201\tAlbania (Republic of)" : Text) := by
    rw [Allocation.rows_publishedTable]
    decide +kernel
  have h : FromPublished scatteredRows := by
    unfold FromPublished
    rw [hr, Allocation.rows_publishedTable]
    decide +kernel
  have hl : (Listing.into (Sink.ofCapacity none) .function).sink.capacity = none := rfl
  obtain ⟨⟨report, ho, -, ht⟩, -, -, -, -, ha, -⟩ := run_of_published_rows h hl (Sink.ofCapacity none)
  rw [hr] at ht ha
  obtain ⟨a, b, hi, hj, -, hx, -⟩ := ha 2 0 _ rfl hp
  exact ⟨h, ⟨report, ho, ht⟩, a, b, hi, hj, hx⟩

end Generation
end FlagState
