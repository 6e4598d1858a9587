import FlagState.Allocation.Published
import FlagState.Country.Published
import FlagState.Proofs.Allocation.Respelling
import FlagState.Proofs.Country.Grammar
import FlagState.Proofs.Country.Index

/-!
The published tables row by row. All rows are in the published form, and no row of the country table is
misread.
-/
namespace FlagState

/-- The lines of a published table: its rows, and a blank line on each side of them. -/
private theorem Text.lines_unlines_rows {rows : List Text} (h : ∀ t ∈ rows, '\n' ∉ t) :
    lines (unlines ([] :: rows ++ [[]])) = [] :: rows ++ [[]] := by
  refine List.splitOn_intercalate '\n' (fun t ht => ?_) (List.cons_ne_nil _ _)
  simp only [List.cons_append, List.mem_cons, List.mem_append, List.not_mem_nil, or_false] at ht
  rcases ht with rfl | ht | rfl
  · exact List.not_mem_nil
  · exact h t ht
  · exact List.not_mem_nil

namespace Country

set_option maxRecDepth 4000 in
/-- The published countries letter by letter. -/
def evaluatedPublished : { cs : List Country // published = cs } :=
  ⟨_, by unfold published; simp -index only [String.toList_ofList]; rfl⟩

theorem published_eq_evaluated : published = evaluatedPublished.val := evaluatedPublished.property

private theorem clean_published : ∀ c ∈ published, c.Clean := by
  rw [published_eq_evaluated]
  decide +kernel

private theorem newline_not_mem_row {c : Country} (h : c.Clean) : '\n' ∉ c.row := by
  have hletters {t : Text} (ht : t.all isLetter = true) : '\n' ∉ t := fun hm =>
    absurd (List.all_eq_true.mp ht _ hm) (by decide)
  have hnumber : '\n' ∉ c.numeric := fun hm =>
    absurd (List.all_eq_true.mp h.numeric.2 _ hm) (by decide)
  have hb : '\n' ∉ (" \t" : Text) := by decide
  simp only [row, List.mem_append, not_or]
  exact ⟨⟨⟨⟨⟨⟨h.name_line, hb⟩, hletters h.alpha2.2⟩, hb⟩, hletters h.alpha3.2⟩, hb⟩, hnumber⟩

theorem ofLine?_row_published {c : Country} (h : c ∈ published) : ofLine? c.row = some c :=
  ofLine?_row (clean_published c h)

theorem lines_publishedTable : Text.lines publishedTable = [] :: published.map row ++ [[]] := by
  refine Text.lines_unlines_rows fun t ht => ?_
  obtain ⟨c, hc, rfl⟩ := List.mem_map.mp ht
  exact newline_not_mem_row (clean_published c hc)

end Country

namespace Allocation

set_option maxRecDepth 4000 in
/-- The published allocations letter by letter. -/
def evaluatedPublished : { as : List Allocation // published = as } :=
  ⟨_, by unfold published; simp -index only [String.toList_ofList]; rfl⟩

theorem published_eq_evaluated : published = evaluatedPublished.val := evaluatedPublished.property

theorem clean_published : ∀ a ∈ published, a.Clean := by
  rw [published_eq_evaluated]
  decide +kernel

theorem lines_publishedTable : Text.lines publishedTable = [] :: published.map row ++ [[]] := by
  refine Text.lines_unlines_rows fun t ht => ?_
  obtain ⟨a, ha, rfl⟩ := List.mem_map.mp ht
  exact (clean_published a ha).newline_not_mem_row

end Allocation
end FlagState
