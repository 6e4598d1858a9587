import FlagState.Proofs.Text.Barrier

/-!
Finds that cannot do without a certain character, such as the parenthesis that closes a qualifier. What
stands behind the last such character is left as it is (`EndsWithin.substitute_append`).
-/
namespace FlagState.Text

/-- A text without `last` makes no difference where it follows, and no find reaches into it. -/
structure Finder.EndsWithin (find : Finder) (last : Char) : Prop where
  ahead : ∀ {b}, last ∉ b → ∀ behind a, find behind (a ++ b) = find behind a
  inside : ∀ {behind a hit}, find behind a = some hit → hit.more < a.length

namespace Finder.EndsWithin

variable {find : Finder} {last : Char} {b : Text} (h : find.EndsWithin last) (hb : last ∉ b)

include h hb

private theorem find_eq_none (behind : Text) : find behind b = none := by
  have he : find behind b = find behind [] := h.ahead hb behind []
  cases hf : find behind [] with
  | none => rw [he, hf]
  | some hit => exact absurd (h.inside hf) (Nat.not_lt_zero _)

private theorem substituteFrom_eq_self (behind : Text) : substituteFrom find 0 behind b = b := by
  induction b generalizing behind with
  | nil => rfl
  | cons c b ih =>
    have hn := h.find_eq_none hb behind
    rw [substituteFrom_of_none hn, ih fun hm => hb (List.mem_cons_of_mem c hm)]

private theorem substituteFrom_append (n : Nat) (behind a : Text) (hn : n ≤ a.length) :
    substituteFrom find n behind (a ++ b) = substituteFrom find n behind a ++ b := by
  induction a generalizing n behind with
  | nil =>
    obtain rfl : n = 0 := Nat.le_zero.mp hn
    exact h.substituteFrom_eq_self hb behind
  | cons c a ih =>
    cases n with
    | succ n =>
      rw [List.cons_append, substituteFrom, substituteFrom]
      exact ih n _ (Nat.le_of_succ_le_succ hn)
    | zero =>
      have he : find behind (c :: (a ++ b)) = find behind (c :: a) := h.ahead hb behind (c :: a)
      rw [List.cons_append]
      cases hf : find behind (c :: a) with
      | none =>
        rw [substituteFrom_of_none (he.trans hf), substituteFrom_of_none hf, ih 0 _ (Nat.zero_le _),
          List.cons_append]
      | some hit =>
        have hi : hit.more ≤ a.length := Nat.le_of_lt_succ (h.inside hf)
        rw [substituteFrom_of_hit (he.trans hf), substituteFrom_of_hit hf, ih _ _ hi, List.append_assoc]

theorem substitute_append (a : Text) : substitute find (a ++ b) = substitute find a ++ b :=
  h.substituteFrom_append hb 0 [] a (Nat.zero_le _)

end Finder.EndsWithin

section Qualifier

private theorem beforeClosing?_eq_none {t : Text} (h : ')' ∉ t) : beforeClosing? t = none := by
  refine Option.eq_none_iff_forall_ne_some.mpr fun n hn => ?_
  obtain ⟨q, r, rfl, -⟩ := beforeClosing?_eq_some_iff.mp hn
  exact h (by simp)

private theorem beforeClosing?_append_of_not_mem {b : Text} (hb : ')' ∉ b) (a : Text) :
    beforeClosing? (a ++ b) = beforeClosing? a := by
  induction a with
  | nil => exact beforeClosing?_eq_none hb
  | cons c a ih => simp only [List.cons_append, beforeClosing?, ih]

/-- A qualifier has to be closed. -/
private theorem findQualifier_eq_none {behind t : Text} (h : ')' ∉ t) : findQualifier behind t = none := by
  cases hf : findQualifier behind t with
  | none => rfl
  | some hit =>
    obtain ⟨q, r, rfl, -⟩ := findQualifier_eq_some_iff.mp hf
    exact absurd (by simp) h

theorem findQualifier_endsWithin : Finder.EndsWithin findQualifier ')' where
  ahead {b} hb behind a := by
    rcases a with _ | ⟨c, _ | ⟨d, a⟩⟩
    · exact findQualifier_eq_none hb
    · by_cases hc : c = ' '
      · have hn : ')' ∉ [c] ++ b := by simp [hc, hb]
        rw [findQualifier_eq_none hn]
        simp [findQualifier]
      · simp [findQualifier, hc]
    · by_cases hc : c = ' '
      · by_cases hd : d = '('
        · subst hc hd
          simp only [List.cons_append, findQualifier, beforeClosing?_append_of_not_mem hb]
        · simp [findQualifier, hd]
      · simp [findQualifier, hc]
  inside := findQualifier_stopsAt.inside

theorem dropQualifiers_append_of_not_mem {b : Text} (hb : ')' ∉ b) (a : Text) :
    dropQualifiers (a ++ b) = dropQualifiers a ++ b :=
  findQualifier_endsWithin.substitute_append hb a

end Qualifier

section Replacement

variable {old new : Text} {last : Char}

private theorem isPrefixOf_append_of_getLast? (ho : old.getLast? = some last) {b : Text} (hb : last ∉ b)
    (a : Text) : old.isPrefixOf (a ++ b) = old.isPrefixOf a := by
  induction a generalizing old with
  | nil =>
    have hm : last ∈ old := List.mem_of_getLast? ho
    have hb' : ¬ old <+: b := fun hp => hb (hp.subset hm)
    have hn : ¬ old <+: [] := fun hp => List.ne_nil_of_mem hm (List.prefix_nil.mp hp)
    rw [← List.isPrefixOf_iff_prefix, Bool.not_eq_true] at hb' hn
    rw [List.nil_append, hb', hn]
  | cons d a ih =>
    match old with
    | [] => rfl
    | [c] => rfl
    | c :: e :: old => rw [List.cons_append, List.isPrefixOf, List.isPrefixOf, ih (by simpa using ho)]

theorem findUnlessWithin_endsWithin (ho : old.getLast? = some last) (hw : occurrences old new = []) :
    Finder.EndsWithin (findUnlessWithin old new) last where
  ahead hb behind a := by
    unfold findUnlessWithin liesWithin
    rw [isPrefixOf_append_of_getLast? ho hb, hw]
    rfl
  inside h := by
    obtain ⟨hp, hm, _⟩ := findUnlessWithin_eq_some h
    have hl := (List.isPrefixOf_iff_prefix.mp hp).length_le
    have hpos := List.length_pos_of_mem (List.mem_of_getLast? ho)
    omega

/-- The new text must not hold the old one, or it could lie across the seam. -/
theorem replaceUnlessWithin_append_of_not_mem (ho : old.getLast? = some last)
    (hw : occurrences old new = []) {b : Text} (hb : last ∉ b) (a : Text) :
    replaceUnlessWithin old new (a ++ b) = replaceUnlessWithin old new a ++ b := by
  unfold replaceUnlessWithin
  split
  · rfl
  · exact (findUnlessWithin_endsWithin ho hw).substitute_append hb a

end Replacement

end FlagState.Text
