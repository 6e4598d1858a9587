import Mathlib.Data.List.Basic
import FlagState.Proofs.Allocation.Grammar
import FlagState.Proofs.Spelling.Lines

/-!
Respelling a table of allocations changes the countries only: no row is lost or added, and the digits
keep their order. The rules stop at the tab, since no name that they deal with holds a tab or a digit.
-/
namespace FlagState.Allocation

open Spelling (RuleSet allocationRules)

/-- The published form of a line: nothing, or three digits, a tab and whatever follows. -/
def isTabular : Text → Bool
  | [] => true
  | a :: b :: c :: d :: _ => Text.isDigit a && Text.isDigit b && Text.isDigit c && d = '\t'
  | _ => false

private theorem eq_nil_or_row_of_isTabular {line : Text} (h : isTabular line = true) :
    line = [] ∨ ∃ a b c rest, line = a :: b :: c :: '\t' :: rest ∧
      Text.isDigit a = true ∧ Text.isDigit b = true ∧ Text.isDigit c = true := by
  unfold isTabular at h
  split at h
  · exact .inl rfl
  · next a b c d rest =>
    simp only [Bool.and_eq_true, decide_eq_true_eq] at h
    obtain ⟨⟨⟨ha, hb⟩, hc⟩, rfl⟩ := h
    exact .inr ⟨a, b, c, rest, rfl, ha, hb, hc⟩
  · cases h

section Row

variable {a b c : Char} (ha : Text.isDigit a = true) (hb : Text.isDigit b = true)
  (hc : Text.isDigit c = true)

include ha hb hc

private theorem ofLine?_row {rest : Text} (hr : '\n' ∉ rest) :
    ofLine? (a :: b :: c :: '\t' :: rest) = some ⟨[a, b, c], Text.skipBlanks rest⟩ := by
  have hs : '\n' ∉ Text.skipBlanks rest := fun hm => hr ((List.dropWhile_sublist _).subset hm)
  have ht : Text.afterBlanks? ('\t' :: rest) = some (Text.skipBlanks rest) := rfl
  simp only [ofLine?, ha, hb, hc, ht, hs, Bool.and_self, if_true, if_false]

private theorem apply_row_of_digits {s : RuleSet} (hs : s.WithinNames) (rest : Text) :
    s.apply (a :: b :: c :: '\t' :: rest) = a :: b :: c :: '\t' :: s.apply rest := by
  have hcons {d : Char} (hd : Text.isDigit d = true) (t : Text) : s.apply (d :: t) = d :: s.apply t := by
    refine RuleSet.apply_cons (hs.digit_not_mem hd) ?_ t
    rintro rfl
    exact absurd hd (by decide)
  rw [hcons ha, hcons hb, hcons hc, RuleSet.apply_cons hs.tab_not_mem (by decide)]

end Row

namespace Clean

variable {a : Allocation} (h : a.Clean)

include h

theorem isTabular_row : isTabular a.row = true := by
  obtain ⟨x, y, z, hm⟩ := List.length_eq_three.mp h.length_mid
  have hd := h.digits
  simp only [hm, List.all_cons, List.all_nil, Bool.and_true] at hd
  simp [row, hm, isTabular, Bool.and_assoc, hd]

theorem newline_not_mem_row : '\n' ∉ a.row := by
  have hd : '\n' ∉ a.mid := fun hn => absurd (List.all_eq_true.mp h.digits _ hn) (by decide)
  simp [row, hd, h.country_line]

theorem apply_row {s : RuleSet} (hs : s.WithinNames) : s.apply a.row = row ⟨a.mid, s.apply a.country⟩ := by
  obtain ⟨x, y, z, hm⟩ := List.length_eq_three.mp h.length_mid
  have hd := h.digits
  simp only [hm, List.all_cons, List.all_nil, Bool.and_true, Bool.and_eq_true] at hd
  simp only [row, hm, List.cons_append, List.nil_append]
  rw [apply_row_of_digits hd.1 hd.2.1 hd.2.2 hs]

theorem take_row : a.row.take 3 = a.mid := List.take_left' h.length_mid

theorem drop_row : a.row.drop 4 = a.country := by
  have hl : (a.mid ++ ['\t']).length = 4 := by simp [h.length_mid]
  rw [row, List.append_cons, List.drop_left' hl]

end Clean

private theorem filterMap_eq_map_filter {α : Type} {f : Text → Option α} {g : Text → α}
    {lines : List Text} (h : ∀ line ∈ lines, f line = if line = [] then none else some (g line)) :
    lines.filterMap f = (lines.filter (· ≠ [])).map g := by
  induction lines with
  | nil => rfl
  | cons line lines ih =>
    have hi := ih fun l hl => h l (List.mem_cons_of_mem _ hl)
    have hf := h line List.mem_cons_self
    by_cases hn : line = []
    · rw [if_pos hn] at hf
      rw [List.filterMap_cons_none hf, hi, List.filter_cons_of_neg (by simp [hn])]
    · rw [if_neg hn] at hf
      rw [List.filterMap_cons_some hf, hi, List.filter_cons_of_pos (by simp [hn]), List.map_cons]

section Table

variable {t : Text} (h : ∀ line ∈ Text.lines t, isTabular line = true)

include h

private theorem ofLine?_of_isTabular {line : Text} (hl : line ∈ Text.lines t) :
    ofLine? line = if line = [] then none else some ⟨line.take 3, Text.skipBlanks (line.drop 4)⟩ := by
  have hn := Text.not_mem_of_mem_lines hl
  obtain rfl | ⟨a, b, c, rest, rfl, ha, hb, hc⟩ := eq_nil_or_row_of_isTabular (h line hl)
  · rfl
  · simp only [List.mem_cons, not_or] at hn
    exact ofLine?_row ha hb hc hn.2.2.2.2

private theorem ofLine?_apply_of_isTabular {s : RuleSet} (hs : s.WithinNames) {line : Text}
    (hl : line ∈ Text.lines t) :
    ofLine? (s.apply line) =
      if line = [] then none
      else some ⟨line.take 3, Text.skipBlanks (s.apply (line.drop 4))⟩ := by
  have hn := Text.not_mem_of_mem_lines hl
  obtain rfl | ⟨a, b, c, rest, rfl, ha, hb, hc⟩ := eq_nil_or_row_of_isTabular (h line hl)
  · rw [RuleSet.apply_nil]
    rfl
  · simp only [List.mem_cons, not_or] at hn
    rw [apply_row_of_digits ha hb hc hs]
    exact ofLine?_row ha hb hc (RuleSet.not_mem_apply hs.newline_not_mem hn.2.2.2.2)

private theorem ofLines_lines :
    ofLines (Text.lines t) = ((Text.lines t).filter (· ≠ [])).map fun line =>
      ⟨line.take 3, Text.skipBlanks (line.drop 4)⟩ :=
  filterMap_eq_map_filter fun _ hl => ofLine?_of_isTabular h hl

theorem ofLines_lines_apply {s : RuleSet} (hs : s.WithinNames) :
    ofLines (Text.lines (s.apply t)) = ((Text.lines t).filter (· ≠ [])).map fun line =>
      ⟨line.take 3, Text.skipBlanks (s.apply (line.drop 4))⟩ := by
  rw [RuleSet.lines_apply hs.newline_not_mem, ofLines, List.filterMap_map]
  exact filterMap_eq_map_filter fun _ hl => ofLine?_apply_of_isTabular h hs hl

end Table

/-- The rows of a respelt table are those of the table itself, with the same digits in the same order.
Their countries are respelt from behind the tab, and blanks at the head go only after that. -/
theorem ofTable_respelt (t : Text) (h : ∀ line ∈ Text.lines t, isTabular line = true) :
    let before := (ofTable t).value
    let after := (ofTable (allocationRules.apply t)).value
    after.length = before.length ∧ after.map mid = before.map mid ∧
      after.map country = ((Text.lines t).filter (· ≠ [])).map fun line =>
        Text.skipBlanks (allocationRules.apply (line.drop 4)) := by
  have hb := ofLines_lines h
  have ha := ofLines_lines_apply h Spelling.withinNames_allocationRules
  simp only [ofTable, Noted.value_bind, Noted.value_pure, ha, hb, List.length_map, List.map_map,
    Function.comp_def, and_self]

/-- A qualifier right behind the tab and a blank is dropped with that blank. -/
theorem ofTable_respelt_leading_qualifier :
    (∀ line ∈ Text.lines "201\t (q)  Korea\n\n٣٠٦\tFrance - Reunion (a)", isTabular line = true) ∧
      (ofTable (allocationRules.apply "201\t (q)  Korea\n\n٣٠٦\tFrance - Reunion (a)")).value.map
        country = (["Korea", "French Southern Territories"] : List Text) := by
  have h : ∀ line ∈ Text.lines "201\t (q)  Korea\n\n٣٠٦\tFrance - Reunion (a)",
      isTabular line = true := by decide +kernel
  refine ⟨h, ?_⟩
  rw [(ofTable_respelt _ h).2.2]
  rw [Spelling.allocationRules_eq_evaluated]
  decide +kernel

end FlagState.Allocation
