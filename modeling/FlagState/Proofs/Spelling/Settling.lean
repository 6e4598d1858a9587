import FlagState.Proofs.Spelling.Stability
import FlagState.Proofs.Text.Completion
import FlagState.Proofs.Text.Strain

/-!
Applied over and over, the rules for allocations come to a text that they leave alone (`respelling_settles`).
All rules but the last two lower a height whenever they change something, and the last two do not raise it.
A pass that does not lower it is one of the last two rules alone; these change nothing the second time, and
the one does not call for the other again.
-/
namespace FlagState.Spelling

section Height

/-- What qualifiers, territories behind their states and the longest names of states have. No rule writes
it anew. -/
def marks (t : Text) : Nat := t.countP fun c => c = '(' || c = '-' || c = 'D'

/-- The letters before the words that a short name leaves out. -/
def stems : Text := ['e', 'z', 'h', 'k']

/-- `State of Palestine` brings its letters into the other order. The words that a short name leaves out
stand behind one of four letters, behind which `Republic of` never brings a space. -/
def strain (t : Text) : Nat := Text.pairs 'S' 'P' t + Text.spacesBehind stems t

def height (t : Text) : ℕ ×ₗ ℕ := toLex (marks t, strain t)

variable {old new : Text}

/-- Put in the place of `old`, `new` brings no strain between the texts around it. -/
structure Eases (old new : Text) : Prop where
  ne_nil : new ≠ []
  head : ' ' ∉ new.head?
  last : ∀ c ∈ new.getLast?, c ∉ stems
  count_S : new.count 'S' ≤ old.count 'S'
  count_P : new.count 'P' ≤ old.count 'P'

instance : Decidable (Eases old new) :=
  decidable_of_iff
    (new ≠ [] ∧ ' ' ∉ new.head? ∧ new.getLast?.all (· ∉ stems) = true ∧ new.count 'S' ≤ old.count 'S' ∧
      new.count 'P' ≤ old.count 'P') <| by
    simp only [Option.all_eq_true, decide_eq_true_eq]
    exact ⟨fun ⟨hn, hh, hl, hs, hp⟩ => ⟨hn, hh, hl, hs, hp⟩, fun ⟨hn, hh, hl, hs, hp⟩ => ⟨hn, hh, hl, hs, hp⟩⟩

theorem marks_exchange (old new front rest : Text) :
    marks (front ++ (new ++ rest)) + marks old = marks (front ++ (old ++ rest)) + marks new := by
  simp only [marks, List.countP_append]
  omega

theorem strain_exchange (h : Eases old new) (front rest : Text) :
    strain (front ++ (new ++ rest)) + strain old ≤ strain (front ++ (old ++ rest)) + strain new := by
  have hhead : ' ' ∉ (new ++ rest).head? := by
    rw [List.head?_append_of_ne_nil _ h.ne_nil]
    exact h.head
  have hspaces : Text.spacesBehind stems (front ++ (new ++ rest)) + Text.spacesBehind stems old ≤
      Text.spacesBehind stems (front ++ (old ++ rest)) + Text.spacesBehind stems new := by
    have hf := Text.le_spacesBehind_append stems front (old ++ rest)
    have ho := Text.le_spacesBehind_append stems old rest
    rw [Text.spacesBehind_append_of_head _ _ hhead, Text.spacesBehind_append_of_last h.last]
    omega
  have hfront : front.count 'S' * new.count 'P' ≤ front.count 'S' * old.count 'P' :=
    Nat.mul_le_mul_left _ h.count_P
  have hrest : new.count 'S' * rest.count 'P' ≤ old.count 'S' * rest.count 'P' :=
    Nat.mul_le_mul_right _ h.count_S
  simp only [strain, Text.pairs_append, List.count_append, Nat.mul_add] at hspaces ⊢
  omega

theorem height_lt_iff {s t : Text} :
    height s < height t ↔ marks s < marks t ∨ marks s = marks t ∧ strain s < strain t := Prod.Lex.toLex_lt_toLex

theorem height_le_of {s t : Text} (hm : marks s ≤ marks t) (hs : strain s ≤ strain t) : height s ≤ height t :=
  Prod.Lex.toLex_mono ⟨hm, hs⟩

end Height

section Rules

/-- The rule lowers the height of what it changes. -/
private def Rule.Settling : Rule → Prop
  | dropQualifiers => True
  | replace old new =>
    marks new < marks old ∨ marks new = marks old ∧ Eases old new ∧ strain new < strain old

private instance decidableSettling : DecidablePred Rule.Settling
  | .dropQualifiers => inferInstanceAs (Decidable True)
  | .replace old new => inferInstanceAs
      (Decidable (marks new < marks old ∨ marks new = marks old ∧ Eases old new ∧ strain new < strain old))

private theorem Rule.Settling.lowers {rule : Rule} (h : rule.Settling) (t : Text) :
    rule.apply t = t ∨ height (rule.apply t) < height t := by
  cases rule with
  | dropQualifiers =>
    refine Text.eq_or_lt_of_reaches (Text.dropQualifiers_reaches (fun front q rest => ?_) t)
    refine height_lt_iff.mpr (.inl ?_)
    simp [marks, List.countP_append]
  | replace old new =>
    refine Text.eq_or_lt_of_reaches (Text.replaceUnlessWithin_reaches (fun front rest => ?_) t)
    have hm := marks_exchange old new front rest
    obtain hlt | ⟨heq, he, hlt⟩ := h
    · exact height_lt_iff.mpr (.inl (by omega))
    · have hs := strain_exchange he front rest
      exact height_lt_iff.mpr (.inr ⟨by omega, by omega⟩)

/-- The rules that put names into a shorter form or take parts off. -/
private def shortening : RuleSet := ⟨allocationRules.name, allocationRules.rules.take 32⟩

private def tanzania : Rule := .replace "Tanzania" "Tanzania, United Republic of"

private def macedonia : Rule := .replace "North Macedonia" "Republic of North Macedonia"

private theorem allocationRules_apply_eq (t : Text) :
    allocationRules.apply t = macedonia.apply (tanzania.apply (shortening.apply t)) := by
  have hlast : allocationRules.rules.drop 32 = [tanzania, macedonia] := by
    unfold allocationRules
    rfl
  have hrules : allocationRules.rules = shortening.rules ++ [tanzania, macedonia] := by
    rw [← hlast]
    exact (List.take_append_drop 32 _).symm
  rw [RuleSet.apply, hrules, List.foldl_append, List.foldl_cons, List.foldl_cons, List.foldl_nil, RuleSet.apply]

private theorem shortening_settling : ∀ rule ∈ shortening.rules, rule.Settling := by
  rw [shortening, allocationRules_eq_evaluated]
  decide +kernel

private theorem height_replace_le {old new : Text} (hm : marks new ≤ marks old) (he : Eases old new)
    (hs : strain new ≤ strain old) (t : Text) : height ((Rule.replace old new).apply t) ≤ height t := by
  refine Text.le_of_reaches (Text.replaceUnlessWithin_reaches (fun front rest => ?_) t)
  have hme := marks_exchange old new front rest
  have hse := strain_exchange he front rest
  exact height_le_of (by omega) (by omega)

private theorem height_tanzania_le (t : Text) : height (tanzania.apply t) ≤ height t :=
  height_replace_le (by decide) (by decide) (by decide) t

private theorem height_macedonia_le (t : Text) : height (macedonia.apply t) ≤ height t :=
  height_replace_le (by decide) (by decide) (by decide) t

private theorem macedonia_apply_apply (t : Text) : macedonia.apply (macedonia.apply t) = macedonia.apply t :=
  Text.replaceUnlessWithin_replaceUnlessWithin (by decide) t

/-- The rule for Macedonia gives the one for Tanzania nothing to do. -/
private theorem tanzania_apply_macedonia (t : Text) :
    tanzania.apply (macedonia.apply (tanzania.apply t)) = macedonia.apply (tanzania.apply t) := by
  have hiff (u : Text) : tanzania.apply u = u ↔ Text.Completed "Tanzania" "Tanzania, United Republic of" u :=
    Text.replaceUnlessWithin_eq_self_iff_completed (by decide) (by decide) (by decide)
      (by decide) (by decide)
  have htwice : tanzania.apply (tanzania.apply t) = tanzania.apply t :=
    Text.replaceUnlessWithin_replaceUnlessWithin (by decide) t
  exact (hiff _).mpr (((hiff _).mp htwice).replaceUnlessWithin (by decide))

end Rules

section Passes

/-- A pass that does not lower the height is left to the last two rules. -/
private theorem height_lt_or_apply_eq (t : Text) :
    height (allocationRules.apply t) < height t ∨
      allocationRules.apply t = macedonia.apply (tanzania.apply t) := by
  have hlowers : shortening.Lowers height := fun rule hr => (shortening_settling rule hr).lowers
  rw [allocationRules_apply_eq]
  obtain hall | hlt := hlowers.unchanged_or_lt t
  · exact .inr (by rw [RuleSet.apply_eq_self hall])
  · exact .inl (((height_macedonia_le _).trans (height_tanzania_le _)).trans_lt hlt)

/-- Two passes either lower the height or come to the first of them. -/
private theorem height_lt_or_apply_apply (t : Text) :
    height (allocationRules.apply t) < height t ∨
      height (allocationRules.apply (allocationRules.apply t)) < height t ∨
      allocationRules.apply (allocationRules.apply t) = allocationRules.apply t := by
  obtain hlt | hfirst := height_lt_or_apply_eq t
  · exact .inl hlt
  · have hle : height (allocationRules.apply t) ≤ height t := by
      rw [hfirst]
      exact (height_macedonia_le _).trans (height_tanzania_le _)
    obtain hlt | hsecond := height_lt_or_apply_eq (allocationRules.apply t)
    · exact .inr (.inl (hlt.trans_le hle))
    · refine .inr (.inr ?_)
      rw [hsecond, hfirst, tanzania_apply_macedonia, macedonia_apply_apply]

/-- Whatever the text, some number of passes brings it to one that a pass leaves alone. -/
theorem respelling_settles (t : Text) :
    ∃ n, allocationRules.apply (allocationRules.apply^[n] t) = allocationRules.apply^[n] t := by
  induction t using (InvImage.wf height wellFounded_lt).induction with
  | _ t ih =>
    obtain hlt | hlt | heq := height_lt_or_apply_apply t
    · obtain ⟨n, hn⟩ := ih _ hlt
      exact ⟨n + 1, hn⟩
    · obtain ⟨n, hn⟩ := ih _ hlt
      exact ⟨n + 2, hn⟩
    · exact ⟨1, heq⟩

/-- One pass is not enough where the last rule gives an earlier one something to do. -/
example : (allocationRules.apply^[1] "Slovak North Macedonia") = "Slovak Republic of North Macedonia" ∧
    (allocationRules.apply^[2] "Slovak North Macedonia") = "Slovakia of Republic of North Macedonia" := by
  rw [allocationRules_eq_evaluated]
  decide +kernel

end Passes

end FlagState.Spelling
