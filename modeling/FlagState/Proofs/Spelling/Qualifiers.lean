import Mathlib.Data.List.Chain
import FlagState.Proofs.Spelling.Names
import FlagState.Proofs.Text.Replacement

/-!
One pass drops all qualifiers. What is left when a qualifier is dropped could form another one only where a
parenthesis opens right behind the one that closes; a text without such a place holds no qualifier on any
line after the pass (`not_holdsQualifier_of_mem_lines`), so that a second pass changes nothing.
-/
namespace FlagState
namespace Text

/-- A qualifier is opened and somewhere behind it a parenthesis is closed. -/
def HoldsQualifier (t : Text) : Prop := ∃ a q b, t = a ++ ' ' :: '(' :: (q ++ ')' :: b)

variable {t : Text}

theorem HoldsQualifier.of_infix {part : Text} (h : part.HoldsQualifier) (hi : part <:+: t) :
    t.HoldsQualifier := by
  obtain ⟨a, q, b, rfl⟩ := h
  obtain ⟨x, y, rfl⟩ := hi
  exact ⟨x ++ a, q, b ++ y, by simp⟩

theorem dropQualifiers_of_not_holdsQualifier (h : ¬ t.HoldsQualifier) : dropQualifiers t = t := by
  refine substitute_eq_self fun behind s hs => Option.eq_none_iff_forall_ne_some.mpr fun hit hf => ?_
  obtain ⟨q, r, rfl, -⟩ := findQualifier_eq_some_iff.mp hf
  exact h (HoldsQualifier.of_infix ⟨[], q, r, rfl⟩ hs.isInfix)

/-- A qualifier that is not closed on its line has no closing parenthesis behind it. -/
private theorem closing_not_mem (hf : findQualifier [] (' ' :: '(' :: t) = none) (hl : '\n' ∉ t) :
    ')' ∉ t := by
  intro hm
  obtain ⟨q, r, rfl, hc⟩ := List.eq_append_cons_of_mem hm
  rw [List.mem_append, not_or] at hl
  rw [findQualifier_eq_some_iff.mpr ⟨q, r, rfl, hc, hl.1, rfl⟩] at hf
  cases hf

/-- A parenthesis at the head of what is left stood at the head, or behind a qualifier that was dropped. -/
private theorem eq_cons_of_dropQualifiers {u : Text} (ht : ¬ [')', '('] <:+: t)
    (h : dropQualifiers t = '(' :: u) : ∃ r, t = '(' :: r := by
  induction t using qualifier_induction with
  | nil => cases h
  | step c t hf =>
    rw [dropQualifiers_cons_of_none hf] at h
    exact ⟨t, by rw [(List.cons.inj h).1]⟩
  | qualifier q t hc hl ih =>
    rw [dropQualifiers_qualifier hc hl] at h
    have hs : ')' :: t <:+: ' ' :: '(' :: (q ++ ')' :: t) := ⟨' ' :: '(' :: q, [], by simp⟩
    obtain ⟨r, rfl⟩ := ih (fun hi => ht (hi.trans ((List.suffix_cons ')' t).isInfix.trans hs))) h
    exact absurd ((List.prefix_append [')', '('] r).isInfix.trans hs) ht

theorem not_holdsQualifier_dropQualifiers (hl : '\n' ∉ t) (ht : ¬ [')', '('] <:+: t) :
    ¬ (dropQualifiers t).HoldsQualifier := by
  induction t using qualifier_induction with
  | nil => rintro ⟨a, q, b, h⟩; simp [dropQualifiers, substitute, substituteFrom] at h
  | step c t hf ih =>
    have hi : t <:+: c :: t := (List.suffix_cons c t).isInfix
    have hlt : '\n' ∉ t := fun hm => hl (List.mem_cons_of_mem c hm)
    rw [dropQualifiers_cons_of_none hf]
    rintro ⟨a, q, b, he⟩
    cases a with
    | cons d a => exact ih hlt (fun h => ht (h.trans hi)) ⟨a, q, b, (List.cons.inj he).2⟩
    | nil =>
      obtain ⟨rfl, hd⟩ := List.cons.inj he
      obtain ⟨r, rfl⟩ := eq_cons_of_dropQualifiers (fun h => ht (h.trans hi)) hd
      have hc : ')' ∉ '(' :: r := by
        simpa using closing_not_mem hf fun hm => hlt (List.mem_cons_of_mem _ hm)
      exact not_mem_dropQualifiers hc (by rw [hd]; simp)
  | qualifier q t hc hq ih =>
    rw [dropQualifiers_qualifier hc hq]
    have hs : t <:+ ' ' :: '(' :: (q ++ ')' :: t) := ⟨' ' :: '(' :: (q ++ [')']), by simp⟩
    exact ih (fun hm => hl (hs.mem hm)) fun h => ht (h.trans hs.isInfix)

section Lines

theorem lines_dropQualifiers (t : Text) : lines (dropQualifiers t) = (lines t).map dropQualifiers :=
  Spelling.RuleSet.lines_apply (s := ⟨[], [.dropQualifiers]⟩) List.not_mem_nil t

/-- After the pass no line holds a qualifier. -/
theorem not_holdsQualifier_of_mem_lines (ht : ¬ [')', '('] <:+: t) {line : Text}
    (h : line ∈ lines (dropQualifiers t)) : ¬ line.HoldsQualifier := by
  rw [lines_dropQualifiers, List.mem_map] at h
  obtain ⟨raw, hr, rfl⟩ := h
  exact not_holdsQualifier_dropQualifiers (not_mem_of_mem_lines hr) fun hi =>
    ht (hi.trans (isInfix_of_mem_lines hr))

end Lines

section Pairs

variable {x y : Char} {old new : Text}

private theorem not_isInfix_pair_iff : ¬ [x, y] <:+: t ↔ t.IsChain fun a b => ¬ (a = x ∧ b = y) := by
  constructor
  · intro h
    refine (List.isChain_isInfix t).imp ?_
    rintro a b hi ⟨rfl, rfl⟩
    exact h hi
  · rintro h ⟨l, r, rfl⟩
    exact List.isChain_pair.mp h.left_of_append.right_of_append ⟨rfl, rfl⟩

private theorem head?_replaceFrom (ho : old ≠ []) (hn : new ≠ []) (behind : Text) :
    (replaceFrom old new behind t).head? = t.head? ∨ (replaceFrom old new behind t).head? = new.head? := by
  induction t using scan_induction ho with
  | nil => exact .inl rfl
  | step c t hc => exact .inl (by rw [replaceFrom_cons hc]; rfl)
  | hit t =>
    rw [replaceFrom_append ho]
    split
    · exact .inl (by rw [List.head?_append_of_ne_nil _ ho, List.head?_append_of_ne_nil _ ho])
    · exact .inr (List.head?_append_of_ne_nil _ hn)

private theorem isChain_of_not_mem (hx : x ∉ new) : new.IsChain fun a b => ¬ (a = x ∧ b = y) := by
  rw [List.isChain_iff_forall_rel_of_append_cons_cons]
  rintro a b l r rfl ⟨rfl, -⟩
  exact hx (by simp)

private theorem isChain_replaceFrom (ho : old ≠ []) (hn : new ≠ []) (hx : x ∉ new) (hy : y ∉ new)
    {behind : Text} (h : t.IsChain fun a b => ¬ (a = x ∧ b = y)) :
    (replaceFrom old new behind t).IsChain fun a b => ¬ (a = x ∧ b = y) := by
  -- What stands at the seam is as it was, or it is written anew and no `y`.
  have hhead {b : Char} {behind u : Text} (hb : b ∈ (replaceFrom old new behind u).head?) :
      b ∈ u.head? ∨ b ≠ y := by
    obtain he | he := head?_replaceFrom (t := u) ho hn behind
    · exact .inl (he ▸ hb)
    · rw [he] at hb
      exact .inr fun hby => hy (hby ▸ List.mem_of_mem_head? hb)
  induction t using scan_induction ho generalizing behind with
  | nil => exact h
  | step c t hc ih =>
    rw [List.isChain_cons] at h
    rw [replaceFrom_cons hc, List.isChain_cons]
    refine ⟨fun b hb => ?_, ih h.2⟩
    obtain hb | hb := hhead hb
    · exact h.1 b hb
    · exact fun hab => hb hab.2
  | hit t ih =>
    rw [List.isChain_append] at h
    rw [replaceFrom_append ho]
    split
    · refine List.isChain_append.mpr ⟨h.1, ih h.2.1, fun a ha b hb => ?_⟩
      obtain hb | hb := hhead hb
      · exact h.2.2 a ha b hb
      · exact fun hab => hb hab.2
    · refine List.isChain_append.mpr ⟨isChain_of_not_mem hx, ih h.2.1, fun a ha b hb hab => ?_⟩
      exact hx (hab.1 ▸ List.mem_of_getLast? ha)

/-- Characters that a new text does not have are not brought together by it. -/
theorem not_isInfix_pair_replaceUnlessWithin (ho : old ≠ []) (hn : new ≠ []) (hx : x ∉ new) (hy : y ∉ new)
    (h : ¬ [x, y] <:+: t) : ¬ [x, y] <:+: replaceUnlessWithin old new t := by
  rw [not_isInfix_pair_iff] at h ⊢
  rw [replaceUnlessWithin_eq ho]
  exact isChain_replaceFrom ho hn hx hy h

end Pairs

end Text

namespace Spelling

/-- The rule changes nothing but what holds a qualifier. -/
def Rule.NeedsQualifier : Rule → Prop
  | dropQualifiers => True
  | replace old _ => old.HoldsQualifier

theorem Rule.apply_of_not_holdsQualifier {rule : Rule} (h : rule.NeedsQualifier) {t : Text}
    (ht : ¬ t.HoldsQualifier) : rule.apply t = t := by
  cases rule with
  | dropQualifiers => exact Text.dropQualifiers_of_not_holdsQualifier ht
  | replace old new => exact Text.replaceUnlessWithin_eq_self (fun hi => ht (h.of_infix hi)) new

theorem countryRules_needQualifier : ∀ rule ∈ countryRules.rules, rule.NeedsQualifier := by
  unfold countryRules
  refine List.forall_mem_cons.mpr ⟨?_, List.forall_mem_cons.mpr ⟨?_, List.forall_mem_singleton.mpr ?_⟩⟩
  · exact ⟨"Virgin Islands", "U.S.", [], by decide⟩
  · exact ⟨"Virgin Islands", "British", [], by decide⟩
  · trivial

theorem RuleSet.apply_of_no_qualifier {s : RuleSet} (hn : '\n' ∉ s.letters)
    (hs : ∀ rule ∈ s.rules, rule.NeedsQualifier) {t : Text}
    (ht : ∀ line ∈ Text.lines t, ¬ line.HoldsQualifier) : s.apply t = t :=
  apply_eq_self_of_lines hn fun line hl =>
    apply_eq_self fun rule hr => Rule.apply_of_not_holdsQualifier (hs rule hr) (ht line hl)

/-- The renamings of the country rules bring no two parentheses together. -/
private theorem exists_countryRules_apply {t : Text} (ht : ¬ [')', '('] <:+: t) :
    ∃ u, countryRules.apply t = Text.dropQualifiers u ∧ ¬ [')', '('] <:+: u := by
  refine ⟨_, rfl, ?_⟩
  have hunited : ¬ [')', '('] <:+:
      (Rule.replace "Virgin Islands (U.S.)" "United States Virgin Islands").apply t :=
    Text.not_isInfix_pair_replaceUnlessWithin (by decide) (by decide) (by decide)
      (by decide) ht
  exact Text.not_isInfix_pair_replaceUnlessWithin (by decide) (by decide)
    (by decide) (by decide) hunited

/-- In a text without `)(` one pass of the country rules, or of the dropping of qualifiers alone, leaves no
qualifier on any line, so that a second pass changes nothing. -/
theorem qualifiers_are_dropped_at_once {t : Text} (ht : ¬ [')', '('] <:+: t) :
    ((∀ line ∈ Text.lines (countryRules.apply t), ¬ line.HoldsQualifier) ∧
        countryRules.apply (countryRules.apply t) = countryRules.apply t) ∧
      (∀ line ∈ Text.lines (Rule.dropQualifiers.apply t), ¬ line.HoldsQualifier) ∧
        Rule.dropQualifiers.apply (Rule.dropQualifiers.apply t) = Rule.dropQualifiers.apply t := by
  obtain ⟨u, hu, huc⟩ := exists_countryRules_apply ht
  have hc : ∀ line ∈ Text.lines (countryRules.apply t), ¬ line.HoldsQualifier := by
    rw [hu]
    exact fun line => Text.not_holdsQualifier_of_mem_lines huc
  have hd : ∀ line ∈ Text.lines (Rule.dropQualifiers.apply t), ¬ line.HoldsQualifier := fun line =>
    Text.not_holdsQualifier_of_mem_lines ht
  have hn := withinNames_countryRules.newline_not_mem
  have hone : ∀ rule ∈ [Rule.dropQualifiers], rule.NeedsQualifier := by
    simp [Rule.NeedsQualifier]
  exact ⟨⟨hc, RuleSet.apply_of_no_qualifier hn countryRules_needQualifier hc⟩, hd,
    RuleSet.apply_of_no_qualifier (s := ⟨[], [.dropQualifiers]⟩) List.not_mem_nil hone hd⟩

/-- A qualifier that opens another, and one that the end of a line leaves open. -/
theorem qualifiers_are_dropped_at_once_nested :
    ¬ [')', '('] <:+: ("Virgin Islands (U.S.) (a (b) c\nA (d\ne) (f)" : Text) ∧
      countryRules.apply (countryRules.apply "Virgin Islands (U.S.) (a (b) c\nA (d\ne) (f)") =
        "United States Virgin Islands c\nA (d\ne)" := by
  have ht : ¬ [')', '('] <:+: ("Virgin Islands (U.S.) (a (b) c\nA (d\ne) (f)" : Text) := by
    decide
  refine ⟨ht, ?_⟩
  rw [(qualifiers_are_dropped_at_once ht).1.2]
  rw [countryRules_eq_evaluated]
  decide

/-- Where a parenthesis opens right behind the one that closes, a qualifier can come up. -/
example : Text.dropQualifiers "A  (b)(c)" = "A (c)" := by decide

end Spelling
end FlagState
