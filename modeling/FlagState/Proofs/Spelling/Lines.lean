import FlagState.Proofs.Spelling.Evaluation
import FlagState.Proofs.Text.Barrier
import FlagState.Text.Blank
import FlagState.Text.Digit

/-!
Rule sets work line by line: what no replacement reads or writes keeps its place, and neither a
replacement nor a qualifier reaches across a line feed.
-/
namespace FlagState.Spelling

/-- The characters that a rule reads or writes by name. -/
def Rule.letters : Rule → Text
  | dropQualifiers => []
  | replace old new => old ++ new

def RuleSet.letters (s : RuleSet) : Text := s.rules.flatMap Rule.letters

namespace Rule

variable {rule : Rule}

theorem apply_append_newline (h : '\n' ∉ rule.letters) (a b : Text) :
    rule.apply (a ++ '\n' :: b) = rule.apply a ++ '\n' :: rule.apply b := by
  cases rule with
  | dropQualifiers => exact Text.dropQualifiers_append a b
  | replace old new =>
    rw [letters, List.mem_append, not_or] at h
    exact Text.replaceUnlessWithin_append h.1 h.2 a b

theorem not_mem_apply {x : Char} (h : x ∉ rule.letters) {t : Text} (ht : x ∉ t) : x ∉ rule.apply t := by
  cases rule with
  | dropQualifiers => exact Text.not_mem_dropQualifiers ht
  | replace old new =>
    rw [letters, List.mem_append, not_or] at h
    exact Text.not_mem_replaceUnlessWithin h.1 h.2 ht

theorem apply_nil (rule : Rule) : rule.apply [] = [] := by
  cases rule with
  | dropQualifiers => rfl
  | replace old new => exact Text.replaceUnlessWithin_nil old new

/-- A character that no rule reads stays at the head; a space may begin a qualifier. -/
theorem apply_cons {c : Char} (h : c ∉ rule.letters) (hs : c ≠ ' ') (t : Text) :
    rule.apply (c :: t) = c :: rule.apply t := by
  cases rule with
  | dropQualifiers => exact Text.dropQualifiers_cons hs t
  | replace old new =>
    rw [letters, List.mem_append, not_or] at h
    have ha := Text.replaceUnlessWithin_append h.1 h.2 [] t
    rwa [Text.replaceUnlessWithin_nil] at ha

end Rule

namespace RuleSet

variable {s : RuleSet}

private theorem not_mem_letters_cons {c : Char} {name : Text} {rule : Rule} {rules : List Rule}
    (h : c ∉ letters ⟨name, rule :: rules⟩) : c ∉ rule.letters ∧ c ∉ letters ⟨name, rules⟩ := by
  rwa [letters, List.flatMap_cons, List.mem_append, not_or] at h

theorem apply_append_newline (h : '\n' ∉ s.letters) (a b : Text) :
    s.apply (a ++ '\n' :: b) = s.apply a ++ '\n' :: s.apply b := by
  obtain ⟨name, rules⟩ := s
  induction rules generalizing a b with
  | nil => rfl
  | cons rule rules ih =>
    obtain ⟨hr, hrs⟩ := not_mem_letters_cons h
    have hi := ih (rule.apply a) (rule.apply b) hrs
    rwa [← Rule.apply_append_newline hr] at hi

/-- No character comes into a text but from the letters of the rules. -/
theorem not_mem_apply {x : Char} (h : x ∉ s.letters) {t : Text} (ht : x ∉ t) : x ∉ s.apply t := by
  obtain ⟨name, rules⟩ := s
  induction rules generalizing t with
  | nil => exact ht
  | cons rule rules ih =>
    obtain ⟨hr, hrs⟩ := not_mem_letters_cons h
    exact ih (Rule.not_mem_apply hr ht) hrs

theorem apply_nil (s : RuleSet) : s.apply [] = [] := by
  obtain ⟨name, rules⟩ := s
  induction rules with
  | nil => rfl
  | cons rule rules ih =>
    change apply ⟨name, rules⟩ (rule.apply []) = []
    rw [Rule.apply_nil, ih]

theorem apply_cons {c : Char} (h : c ∉ s.letters) (hs : c ≠ ' ') (t : Text) :
    s.apply (c :: t) = c :: s.apply t := by
  obtain ⟨name, rules⟩ := s
  induction rules generalizing t with
  | nil => rfl
  | cons rule rules ih =>
    obtain ⟨hr, hrs⟩ := not_mem_letters_cons h
    have hi := ih (rule.apply t) hrs
    rwa [← Rule.apply_cons hr hs] at hi

private theorem lines_apply_unlines (h : '\n' ∉ s.letters) {ts : List Text} (hne : ts ≠ [])
    (hts : ∀ t ∈ ts, '\n' ∉ t) : Text.lines (s.apply (Text.unlines ts)) = ts.map s.apply := by
  induction ts with
  | nil => exact absurd rfl hne
  | cons t us ih =>
    have ht := not_mem_apply h (hts t List.mem_cons_self)
    cases us with
    | nil =>
      rw [Text.unlines_singleton]
      exact Text.lines_of_not_mem ht
    | cons u us =>
      have hi := ih (List.cons_ne_nil u us) fun v hv => hts v (List.mem_cons_of_mem _ hv)
      rw [Text.unlines_cons_cons, apply_append_newline h, Text.lines_append, Text.lines_of_not_mem ht, hi]
      rfl

theorem lines_apply (h : '\n' ∉ s.letters) (t : Text) :
    Text.lines (s.apply t) = (Text.lines t).map s.apply := by
  have hu := lines_apply_unlines h (Text.lines_ne_nil t) fun _ hm => Text.not_mem_of_mem_lines hm
  rwa [Text.unlines_lines] at hu

/-- A text whose lines are left alone is left alone. -/
theorem apply_eq_self_of_lines (h : '\n' ∉ s.letters) {t : Text}
    (hl : ∀ line ∈ Text.lines t, s.apply line = line) : s.apply t = t := by
  have hs : Text.lines (s.apply t) = Text.lines t := by
    rw [lines_apply h, List.map_congr_left hl, List.map_id']
  rw [← Text.unlines_lines (s.apply t), hs, Text.unlines_lines]

/-- What the rules read and write by name holds no digit and no blank but the space. -/
def WithinNames (s : RuleSet) : Prop :=
  ∀ c ∈ s.letters, Text.isDigit c = false ∧ (c = ' ' ∨ Text.isBlank c = false)

-- Goes through the letters at hand, not through all characters.
instance (s : RuleSet) : Decidable s.WithinNames := List.decidableBAll _ s.letters

namespace WithinNames

variable {s : RuleSet} (h : s.WithinNames) {c : Char}

include h

theorem blank_not_mem (hs : c ≠ ' ') (hb : Text.isBlank c = true) : c ∉ s.letters := by
  intro hm
  obtain hc | hc := (h c hm).2
  · exact hs hc
  · rw [hb] at hc
    cases hc

theorem newline_not_mem : '\n' ∉ s.letters := h.blank_not_mem (by decide) (by decide)

theorem tab_not_mem : '\t' ∉ s.letters := h.blank_not_mem (by decide) (by decide)

theorem digit_not_mem (hd : Text.isDigit c = true) : c ∉ s.letters := by
  intro hm
  have hc := (h c hm).1
  rw [hd] at hc
  cases hc

end WithinNames
end RuleSet

theorem withinNames_allocationRules : allocationRules.WithinNames := by
  rw [allocationRules_eq_evaluated]
  decide +kernel

theorem withinNames_countryRules : countryRules.WithinNames := by
  rw [countryRules_eq_evaluated]
  decide +kernel

/-- A rule set without line feeds of its own respells every line as if it stood alone. -/
theorem respelling_is_linewise (s : RuleSet) (h : '\n' ∉ s.letters) :
    (∀ a b : Text, s.apply (a ++ '\n' :: b) = s.apply a ++ '\n' :: s.apply b) ∧
      ∀ t : Text, Text.lines (s.apply t) = (Text.lines t).map s.apply :=
  ⟨RuleSet.apply_append_newline h, RuleSet.lines_apply h⟩

/-- The shipped rule sets hold no line feed; a qualifier left open on one line ends with it. -/
theorem respelling_is_linewise_shipped :
    '\n' ∉ allocationRules.letters ∧ '\n' ∉ countryRules.letters ∧
      allocationRules.apply "201\tTanzania (b\nc) (d)" =
        allocationRules.apply "201\tTanzania (b" ++ '\n' :: allocationRules.apply "c) (d)" ∧
      Text.lines (countryRules.apply "A (b\nc) d (e)") = (["A (b", "c) d"] : List Text) := by
  have ha := withinNames_allocationRules.newline_not_mem
  have hc := withinNames_countryRules.newline_not_mem
  refine ⟨ha, hc, ?_, ?_⟩
  · exact (respelling_is_linewise _ ha).1 "201\tTanzania (b" "c) (d)"
  · rw [(respelling_is_linewise _ hc).2]
    decide +kernel

end FlagState.Spelling
