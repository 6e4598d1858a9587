import FlagState.Proofs.Text.Barrier

/-!
Texts in which there is nothing to substitute. A text in which no qualifier begins stays as it is
(`dropQualifiers_eq_self`), and qualifiers within a name or at the end of it are dropped whole
(`dropQualifiers_qualifiers_append`, `dropQualifiers_append_qualifiers`).
-/
namespace FlagState.Text

variable {t : Text}

theorem substitute_eq_self {find : Finder} (h : ∀ behind s, s <:+ t → find behind s = none) :
    substitute find t = t := by
  have hs (behind : Text) : substituteFrom find 0 behind t = t := by
    induction t generalizing behind with
    | nil => rfl
    | cons c t ih =>
      have hn : find behind (c :: t) = none := h behind _ List.suffix_rfl
      rw [substituteFrom_of_none hn, ih fun b s hs => h b s (hs.trans (List.suffix_cons c t))]
  exact hs []

/-- Every qualifier begins with these two characters. -/
theorem dropQualifiers_eq_self (h : ¬ [' ', '('] <:+: t) : dropQualifiers t = t := by
  refine substitute_eq_self fun behind s hs => ?_
  cases hf : findQualifier behind s with
  | none => rfl
  | some hit =>
    obtain ⟨q, r, rfl, -⟩ := findQualifier_eq_some_iff.mp hf
    exact absurd ((List.prefix_append [' ', '('] _).isInfix.trans hs.isInfix) h

section Qualifiers

/-- Qualifiers one behind the other, each with the space before it. -/
def qualifiers (qs : List Text) : Text := qs.flatMap fun q => ' ' :: '(' :: q ++ [')']

theorem qualifiers_cons (q : Text) (qs : List Text) :
    qualifiers (q :: qs) = ' ' :: '(' :: (q ++ ')' :: qualifiers qs) := by
  simp [qualifiers]

/-- A parenthesis behind a space is the only beginning of a qualifier. -/
theorem dropQualifiers_append_of_opening {t s : Text} (ht : '(' ∉ t) (hs : '(' ∉ s.head?) :
    dropQualifiers (t ++ s) = t ++ dropQualifiers s := by
  induction t with
  | nil => rfl
  | cons c t ih =>
    rw [List.mem_cons, not_or] at ht
    have hn : findQualifier [] (c :: (t ++ s)) = none := by
      refine Option.eq_none_iff_forall_ne_some.mpr fun hit hf => ?_
      obtain ⟨q, r, he, -⟩ := findQualifier_eq_some_iff.mp hf
      rw [List.cons.injEq] at he
      cases t with
      | nil =>
        rw [List.nil_append] at he
        exact hs (by simp [he.2])
      | cons d t => simp_all
    rw [List.cons_append, dropQualifiers_cons_of_none hn, ih ht.2, List.cons_append]

variable {qs : List Text} (hq : ∀ q ∈ qs, ')' ∉ q ∧ '\n' ∉ q)

include hq

theorem not_mem_append_qualifiers (ht : '\n' ∉ t) : '\n' ∉ t ++ qualifiers qs := by
  simp only [qualifiers, List.mem_append, List.mem_flatMap, not_or, not_exists, not_and]
  refine ⟨ht, fun q hm => ?_⟩
  simp [(hq q hm).2]

theorem dropQualifiers_qualifiers_append (t : Text) :
    dropQualifiers (qualifiers qs ++ t) = dropQualifiers t := by
  induction qs with
  | nil => rfl
  | cons q qs ih =>
    obtain ⟨hc, hl⟩ := hq q List.mem_cons_self
    rw [qualifiers_cons]
    simp only [List.cons_append, List.append_assoc]
    rw [dropQualifiers_qualifier hc hl]
    exact ih fun p hp => hq p (List.mem_cons_of_mem q hp)

theorem dropQualifiers_append_qualifiers (ht : '(' ∉ t) : dropQualifiers (t ++ qualifiers qs) = t := by
  have hh : '(' ∉ (qualifiers qs).head? := by
    cases qs with
    | nil => simp [qualifiers]
    | cons q qs => simp [qualifiers_cons]
  have hn := dropQualifiers_qualifiers_append hq []
  rw [List.append_nil] at hn
  rw [dropQualifiers_append_of_opening ht hh, hn]
  exact List.append_nil t

end Qualifiers

end FlagState.Text
