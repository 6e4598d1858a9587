import FlagState.Proofs.Generation.Output
import FlagState.Proofs.Tables.Published

/-!
A row of allocations that carries a name of the published index, with qualifiers or without, gets the
code of that name (`run_of_indexed_name`). One name is lost: the rules turn the supplementary name of
Reunion into that of the French Southern Territories before it is looked up.
-/
namespace FlagState

/-- A row as it is published, its country followed by qualifiers. -/
def Allocation.qualifiedRow (mid name : Text) (qs : List Text) : Text :=
  row ⟨mid, name ++ Text.qualifiers qs⟩

namespace Generation

open Country (indexed lastNamed? southernTerritories)
open Allocation (qualifiedRow)
open Spelling (allocationRules)

section Run

variable {l : Listing} (hl : l.sink.capacity = none) (diagnostics : Sink)

include hl

private theorem run_of_single {tables : Tables} (hp : tables.countries = Country.publishedTable)
    {a : Allocation} (ha : tables.linewiseAllocations = [a]) {c : Country}
    (hc : lastNamed? indexed a.country = some c) :
    let r := (run tables l diagnostics).value
    r.outcome = .ok ⟨1, 0, []⟩ ∧
      r.listing.sink.contents = l.contentsWith [⟨a.mid, c.alpha2, a.country, false⟩] := by
  have hx : tables.code? a.country = some c.alpha2 := by
    rw [Tables.code?, Tables.linewiseCountries_published hp, hc, Option.map_some]
  have hk : ∀ b ∈ tables.linewiseAllocations, (tables.code? b.country).isSome = true := by
    intro b hb
    rw [ha, List.mem_singleton] at hb
    rw [hb, hx, Option.isSome_some]
  obtain ⟨ho, hs, -⟩ := run_of_known hk (Tables.misreadings_published hp) hl diagnostics
  rw [(arms_of_single ha hx).1] at ho hs
  exact ⟨ho, hs⟩

/-- The rules turn the name of the row into that of `c`, which the index holds. -/
private theorem run_of_respelt_name {a : Allocation} (h : a.Clean) {c : Country}
    (ha : allocationRules.apply a.country = c.name) (hc : lastNamed? indexed c.name = some c) :
    let r := (run ⟨a.row, Country.publishedTable⟩ l diagnostics).value
    allocationRules.apply a.row = Allocation.row ⟨a.mid, c.name⟩ ∧ r.outcome = .ok ⟨1, 0, []⟩ ∧
      r.listing.sink.contents = l.contentsWith [⟨a.mid, c.alpha2, c.name, false⟩] := by
  have hr : Tables.linewiseAllocations ⟨a.row, Country.publishedTable⟩ = [⟨a.mid, c.name⟩] := by
    rw [Tables.linewiseAllocations_row h rfl, ha, (Country.name_indexed (Country.mem_of_lastNamed? hc).1).2.2]
  have hs := Spelling.withinNames_allocationRules
  exact ⟨by rw [h.apply_row hs, ha], run_of_single hl diagnostics rfl hr hc⟩

/-- A row of three digits and a name of the index, with qualifiers or without, is listed with the code
of that name; only Reunion is taken for another country. -/
theorem run_of_indexed_name {name : Text} {c : Country}
    (hc : (countriesOf Tables.published).1.find? name = some c) {mid : Text} (hm : mid.length = 3)
    (hd : mid.all Text.isDigit = true) {qs : List Text} (hq : ∀ q ∈ qs, ')' ∉ q ∧ '\n' ∉ q) :
    let row := qualifiedRow mid name qs
    let r := (run ⟨row, Country.publishedTable⟩ l diagnostics).value
    r.outcome = .ok ⟨1, 0, []⟩ ∧
      (name ≠ ("France - Reunion" : Text) → allocationRules.apply row = Allocation.row ⟨mid, name⟩ ∧
        r.listing.sink.contents = l.contentsWith [⟨mid, c.alpha2, name, false⟩]) ∧
      (name = ("France - Reunion" : Text) → c.alpha2 = ("RE" : Text) ∧
        allocationRules.apply row = Allocation.row ⟨mid, southernTerritories.name⟩ ∧
        r.listing.sink.contents =
          l.contentsWith [⟨mid, southernTerritories.alpha2, southernTerritories.name, false⟩]) := by
  unfold qualifiedRow
  dsimp only
  rw [Tables.find?_published rfl] at hc
  obtain ⟨hi, rfl⟩ := Country.mem_of_lastNamed? hc
  have hrow : Allocation.Clean ⟨mid, c.name ++ Text.qualifiers qs⟩ :=
    ⟨hm, hd, Text.not_mem_append_qualifiers hq (Country.name_indexed hi).2.1⟩
  by_cases hn : c.name = ("France - Reunion" : Text)
  · obtain ⟨hs, hre, -⟩ := Country.lastNamed?_indexed
    have ha := Country.allocationRules_apply_reunion hi hn hq
    obtain ⟨hk, ho, hl⟩ := run_of_respelt_name hl diagnostics hrow ha hs
    have hcode : c.alpha2 = ("RE" : Text) := by
      rw [hn, hre, Option.some.injEq] at hc
      rw [← hc]
    exact ⟨ho, fun h => absurd hn h, fun _ => ⟨hcode, hk, hl⟩⟩
  · have ha := Country.allocationRules_apply_indexed hi hn hq
    obtain ⟨hk, ho, hl⟩ := run_of_respelt_name hl diagnostics hrow ha hc
    exact ⟨ho, fun _ => ⟨hk, hl⟩, fun h => absurd h hn⟩

end Run

/-- A supplementary name, with a qualifier that holds what opens one. -/
theorem run_of_indexed_name_vatican :
    (countriesOf Tables.published).1.find? "Vatican City State" =
        some ⟨"Vatican City State", "VA", "ZZZ", "000"⟩ ∧
      allocationRules.apply "208\tVatican City State (a (b) (c)" = "208\tVatican City State" ∧
      (run ⟨"208\tVatican City State (a (b) (c)", Country.publishedTable⟩
        (.into (Sink.ofCapacity none) .entries) (Sink.ofCapacity none)).value.listing.sink.contents =
          Text.utf8 "            208 => Some(\"VA\"), // Vatican City State\n" := by
  have hc : (countriesOf Tables.published).1.find? "Vatican City State" =
      some ⟨"Vatican City State", "VA", "ZZZ", "000"⟩ := by
    rw [Tables.find?_published rfl, Country.lastNamed?_indexed.2.2]
  have hrow : ("208\tVatican City State (a (b) (c)" : Text) =
      qualifiedRow "208" "Vatican City State" ["a (b", "c"] := by decide +kernel
  have hname : ("208\tVatican City State" : Text) = Allocation.row ⟨"208", "Vatican City State"⟩ := by
    decide +kernel
  have hl : (Listing.into (Sink.ofCapacity none) .entries).sink.capacity = none := rfl
  have hd : ("208" : Text).all Text.isDigit = true := by decide +kernel
  have hq : ∀ q ∈ (["a (b", "c"] : List Text), ')' ∉ q ∧ '\n' ∉ q := by decide +kernel
  have hr := run_of_indexed_name hl (Sink.ofCapacity none) hc (by decide) hd hq
  obtain ⟨ha, hs⟩ := hr.2.1 (by decide +kernel)
  rw [hrow, hname]
  refine ⟨hc, ha, hs.trans ?_⟩
  decide +kernel

/-- The index holds the name with a code of its own, but a row of that name is listed with another. -/
theorem run_of_reunion :
    (countriesOf Tables.published).1.find? "France - Reunion" =
        some ⟨"France - Reunion", "RE", "ZZZ", "000"⟩ ∧
      allocationRules.apply "660\tFrance - Reunion" ≠ "660\tFrance - Reunion" ∧
      (run ⟨"660\tFrance - Reunion", Country.publishedTable⟩
        (.into (Sink.ofCapacity none) .entries) (Sink.ofCapacity none)).value.listing.sink.contents =
          Text.utf8 "            660 => Some(\"TF\"), // French Southern Territories\n" := by
  obtain ⟨hs, hre, -⟩ := Country.lastNamed?_indexed
  have hrow : ("660\tFrance - Reunion" : Text) = Allocation.row ⟨"660", "France - Reunion"⟩ := by
    decide +kernel
  have ha := Country.allocationRules_apply_reunion (Country.mem_of_lastNamed? hre).1 rfl
    (List.forall_mem_nil _)
  rw [Text.qualifiers, List.flatMap_nil, List.append_nil] at ha
  have hl : (Listing.into (Sink.ofCapacity none) .entries).sink.capacity = none := rfl
  have hclean : Allocation.Clean ⟨"660", "France - Reunion"⟩ := by decide +kernel
  obtain ⟨hk, -, hc⟩ := run_of_respelt_name hl (Sink.ofCapacity none) hclean ha hs
  rw [hrow]
  refine ⟨by rw [Tables.find?_published rfl, hre], ?_, hc.trans ?_⟩
  · rw [hk]
    decide +kernel
  · decide +kernel

end Generation
end FlagState
