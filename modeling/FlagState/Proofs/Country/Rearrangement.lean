import Mathlib.Data.List.Sort
import FlagState.Proofs.Country.Index
import FlagState.Proofs.Tables

/-!
Country tables in another order. As long as the rows of one name stay in order among themselves, the last
row of every name is the same (`lastNamed?_of_rearrangement`). The lines that cannot be read are the same
ones in any case, but for their order (`map_line_of_rearrangement`).
-/
namespace FlagState

/-- The entries of `s` at other places in `t`. Entries that clash stay in order. -/
structure Rearrangement {α : Type} (clash : α → α → Prop) (s t : List α) where
  place : Fin s.length ≃ Fin t.length
  get_place : ∀ i, t.get (place i) = s.get i
  in_order : ∀ i j, i < j → clash (s.get i) (s.get j) → place i < place j

namespace Rearrangement

variable {α : Type} {clash : α → α → Prop} {s t : List α} (h : Rearrangement clash s t)

include h

theorem perm : t.Perm s := by
  have hplaces : (List.finRange t.length).Perm ((List.finRange s.length).map h.place) := by
    rw [List.perm_ext_iff_of_nodup (List.nodup_finRange _) ((List.nodup_finRange _).map h.place.injective)]
    exact fun i => by simpa using h.place.surjective i
  have hs : t.get ∘ h.place = s.get := funext h.get_place
  have hp := hplaces.map t.get
  rwa [List.map_map, hs, List.map_get_finRange, List.map_get_finRange] at hp

/-- Entries of which any two clash are met in the same order. -/
theorem filter_eq {p : α → Bool} (hp : ∀ a b, p a = true → p b = true → clash a b) :
    t.filter p = s.filter p := by
  have hs : t.get ∘ h.place = s.get := funext h.get_place
  -- Both sides are in order and hold the places of the same entries.
  have hplaces : (List.finRange t.length).filter (p ∘ t.get) =
      ((List.finRange s.length).filter (p ∘ s.get)).map h.place := by
    refine ((List.pairwise_lt_finRange _).filter _).eq_of_mem_iff ?_ fun i => ?_
    · rw [List.pairwise_map]
      refine List.Pairwise.imp_of_mem ?_ ((List.pairwise_lt_finRange _).filter _)
      intro i j hi hj hij
      rw [List.mem_filter] at hi hj
      exact h.in_order i j hij (hp _ _ hi.2 hj.2)
    · obtain ⟨i, rfl⟩ := h.place.surjective i
      simp [← hs]
  calc t.filter p
    _ = ((List.finRange t.length).map t.get).filter p := by rw [List.map_get_finRange]
    _ = (((List.finRange s.length).filter (p ∘ s.get)).map h.place).map t.get := by
      rw [List.filter_map, hplaces]
    _ = ((List.finRange s.length).map s.get).filter p := by rw [List.map_map, hs, List.filter_map]
    _ = s.filter p := by rw [List.map_get_finRange]

end Rearrangement

namespace Country

open Spelling (countryRules)

/-- The name that a line is entered under once it is respelt. -/
def enteredName? (line : Text) : Option Text := (Row.ofLine (countryRules.apply line)).toOption.map Country.name

/-- Both lines are entered, under one name. -/
def namesakes (a b : Text) : Prop := (enteredName? a).isSome = true ∧ enteredName? a = enteredName? b

instance (a b : Text) : Decidable (namesakes a b) :=
  inferInstanceAs (Decidable ((enteredName? a).isSome = true ∧ enteredName? a = enteredName? b))

theorem filter_name_ofLines (lines : List Text) (name : Text) :
    (ofLines (lines.map countryRules.apply)).filter (·.name = name) =
      ofLines ((lines.filter fun line => enteredName? line = some name).map countryRules.apply) := by
  simp only [ofLines, List.filterMap_map, List.filter_filterMap, List.filterMap_filter]
  refine List.filterMap_congr fun line _ => ?_
  cases hl : (Row.ofLine (countryRules.apply line)).toOption with
  | none => simp [enteredName?, hl]
  | some c => by_cases hc : c.name = name <;> simp [enteredName?, hl, hc]

section Lines

variable {s t : List Text} (h : Rearrangement namesakes s t) (rows : List Text)

include h

theorem lastNamed?_of_rearrangement (name : Text) :
    lastNamed? (ofLines (t.map countryRules.apply ++ rows)) name =
      lastNamed? (ofLines (s.map countryRules.apply ++ rows)) name := by
  have hf : t.filter (fun line => enteredName? line = some name) =
      s.filter fun line => enteredName? line = some name := by
    refine h.filter_eq fun a b ha hb => ?_
    rw [decide_eq_true_iff] at ha hb
    exact ⟨by rw [ha, Option.isSome_some], ha.trans hb.symm⟩
  simp only [lastNamed?, ofLines_append, List.filter_append, filter_name_ofLines, hf]

end Lines

theorem map_line_of_rearrangement {s t : Text} (h : Rearrangement namesakes (Text.lines s) (Text.lines t))
    (allocations : Text) :
    ((Index.ofTable (Tables.respelt ⟨allocations, t⟩).value.countries).value.2.map Misreading.line).Perm
      ((Index.ofTable (Tables.respelt ⟨allocations, s⟩).value.countries).value.2.map Misreading.line) := by
  simp only [Index.map_line_ofTable, Tables.lines_countries_respelt]
  exact ((h.perm.map _).append_right _).filter _

end Country
end FlagState
