import FlagState.Text.Qualifier

/-!
Qualifiers as they are found and dropped. A scan passes over single characters at which no qualifier begins
and over whole qualifiers (`qualifier_induction`), with one equation for either.
-/
namespace FlagState.Text

/-- What stands in the parentheses is the part before the first `)`, all of it on one line. -/
theorem beforeClosing?_eq_some_iff {t : Text} {n : Nat} :
    beforeClosing? t = some n ↔ ∃ q r, t = q ++ ')' :: r ∧ q.length = n ∧ ')' ∉ q ∧ '\n' ∉ q := by
  constructor
  · intro h
    induction t generalizing n with
    | nil => simp [beforeClosing?] at h
    | cons c t ih =>
      rw [beforeClosing?] at h
      split at h
      · next hc =>
        obtain rfl := Option.some.inj h
        exact ⟨[], t, by rw [hc]; rfl, rfl, List.not_mem_nil, List.not_mem_nil⟩
      · next hc =>
        split at h
        · cases h
        · next hl =>
          obtain ⟨m, hm, rfl⟩ := Option.map_eq_some_iff.mp h
          obtain ⟨q, r, rfl, rfl, hq, hn⟩ := ih hm
          exact ⟨c :: q, r, rfl, rfl, by simp [Ne.symm hc, hq], by simp [Ne.symm hl, hn]⟩
  · rintro ⟨q, r, rfl, rfl, hc, hl⟩
    induction q with
    | nil => simp [beforeClosing?]
    | cons c q ih =>
      rw [List.mem_cons, not_or] at hc hl
      rw [List.cons_append, beforeClosing?, if_neg (Ne.symm hc.1), if_neg (Ne.symm hl.1), ih hc.2 hl.2]
      rfl

theorem findQualifier_eq_some_iff {behind ahead : Text} {hit : Hit} :
    findQualifier behind ahead = some hit ↔
      ∃ q r, ahead = ' ' :: '(' :: (q ++ ')' :: r) ∧ ')' ∉ q ∧ '\n' ∉ q ∧ hit = ⟨q.length + 2, []⟩ := by
  constructor
  · intro h
    unfold findQualifier at h
    split at h
    · next t =>
      obtain ⟨n, hn, rfl⟩ := Option.map_eq_some_iff.mp h
      obtain ⟨q, r, rfl, rfl, hc, hl⟩ := beforeClosing?_eq_some_iff.mp hn
      exact ⟨q, r, rfl, hc, hl, rfl⟩
    · cases h
  · rintro ⟨q, r, rfl, hc, hl, rfl⟩
    rw [findQualifier, beforeClosing?_eq_some_iff.mpr ⟨q, r, rfl, rfl, hc, hl⟩]
    rfl

/-- Qualifiers are found by what lies ahead alone. -/
theorem findQualifier_behind (x y ahead : Text) : findQualifier x ahead = findQualifier y ahead := by
  unfold findQualifier
  split <;> rfl

private theorem substituteFrom_findQualifier (n : Nat) (behind t : Text) :
    substituteFrom findQualifier n behind t = substituteFrom findQualifier n [] t := by
  induction t generalizing n behind with
  | nil => rfl
  | cons c t ih =>
    cases n with
    | zero => simp only [substituteFrom, findQualifier_behind behind [], ih _ (c :: behind), ih _ [c]]
    | succ n => simp only [substituteFrom, ih _ (c :: behind), ih _ [c]]

theorem dropQualifiers_qualifier {q : Text} (hc : ')' ∉ q) (hl : '\n' ∉ q) (t : Text) :
    dropQualifiers (' ' :: '(' :: (q ++ ')' :: t)) = dropQualifiers t := by
  have hf : findQualifier [] (' ' :: '(' :: (q ++ ')' :: t)) = some ⟨q.length + 2, []⟩ :=
    findQualifier_eq_some_iff.mpr ⟨q, t, rfl, hc, hl, rfl⟩
  have hd : ('(' :: (q ++ ')' :: t)).drop (q.length + 2) = t := by simp [List.drop_append]
  rw [dropQualifiers, substitute, substituteFrom_of_hit hf, substituteFrom_skip, hd,
    substituteFrom_findQualifier]
  rfl

theorem dropQualifiers_cons_of_none {c : Char} {t : Text} (h : findQualifier [] (c :: t) = none) :
    dropQualifiers (c :: t) = c :: dropQualifiers t := by
  rw [dropQualifiers, substitute, substituteFrom_of_none h, substituteFrom_findQualifier]
  rfl

/-- A qualifier begins with a space. -/
theorem dropQualifiers_cons {c : Char} (h : c ≠ ' ') (t : Text) :
    dropQualifiers (c :: t) = c :: dropQualifiers t :=
  dropQualifiers_cons_of_none (by simp [findQualifier, h])

@[elab_as_elim]
theorem qualifier_induction {motive : Text → Prop} (nil : motive [])
    (step : ∀ c t, findQualifier [] (c :: t) = none → motive t → motive (c :: t))
    (qualifier : ∀ q t, ')' ∉ q → '\n' ∉ q → motive t → motive (' ' :: '(' :: (q ++ ')' :: t)))
    (t : Text) : motive t := by
  match t with
  | [] => exact nil
  | c :: u =>
    cases hf : findQualifier [] (c :: u) with
    | none => exact step c u hf (qualifier_induction nil step qualifier u)
    | some hit =>
      obtain ⟨q, r, he, hc, hl, -⟩ := findQualifier_eq_some_iff.mp hf
      have hlt : r.length ≤ u.length := by
        have hl := congrArg List.length he
        simp only [List.length_cons, List.length_append] at hl
        omega
      rw [he]
      exact qualifier q r hc hl (qualifier_induction nil step qualifier r)
termination_by t.length

end FlagState.Text
