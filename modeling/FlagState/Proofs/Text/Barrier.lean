import FlagState.Proofs.Text.Qualifier
import FlagState.Text.Replacement

/-!
Characters that a substitution does not look across. A text that is cut at such a character can be
substituted piece by piece (`StopsAt.substitute_append`), and the character is never written anew.
-/
namespace FlagState.Text

/-- What a finder sees of a text ends before `sep` on either side, and its finds and what it inserts
leave `sep` alone. -/
structure Finder.StopsAt (find : Finder) (sep : Char) : Prop where
  ahead : ∀ behind a b, find behind (a ++ sep :: b) = find behind a
  behind : ∀ x y ahead, find (x ++ sep :: y) ahead = find x ahead
  inside : ∀ {behind a hit}, find behind a = some hit → hit.more < a.length
  insert : ∀ {behind a hit}, find behind a = some hit → sep ∉ hit.insert

namespace Finder.StopsAt

variable {find : Finder} {sep : Char}

private theorem substituteFrom_behind (h : find.StopsAt sep) (n : Nat) (x y t : Text) :
    substituteFrom find n (x ++ sep :: y) t = substituteFrom find n x t := by
  induction t generalizing n x with
  | nil => rfl
  | cons c t ih =>
    have hi (k : Nat) := ih k (c :: x)
    simp only [List.cons_append] at hi
    cases n with
    | zero => simp only [substituteFrom, h.behind, hi]
    | succ n => simp only [substituteFrom, hi]

private theorem substituteFrom_append (h : find.StopsAt sep) (n : Nat) (behind a b : Text)
    (hn : n ≤ a.length) :
    substituteFrom find n behind (a ++ sep :: b) =
      substituteFrom find n behind a ++ sep :: substitute find b := by
  -- A find ends before `sep`, so nothing is left to pass over when the scan arrives there.
  induction a generalizing n behind with
  | nil =>
    obtain rfl : n = 0 := Nat.le_zero.mp hn
    have hNone : find behind (sep :: b) = none := by
      have he : find behind (sep :: b) = find behind [] := h.ahead behind [] b
      cases hf : find behind [] with
      | none => rw [he, hf]
      | some hit => exact absurd (h.inside hf) (Nat.not_lt_zero _)
    rw [List.nil_append, substituteFrom_of_none hNone]
    exact congrArg (sep :: ·) (h.substituteFrom_behind 0 [] behind b)
  | cons c a ih =>
    cases n with
    | succ n =>
      rw [List.cons_append, substituteFrom, substituteFrom]
      exact ih n _ (Nat.le_of_succ_le_succ hn)
    | zero =>
      have he : find behind (c :: (a ++ sep :: b)) = find behind (c :: a) := h.ahead behind (c :: a) b
      rw [List.cons_append]
      cases hf : find behind (c :: a) with
      | none =>
        rw [substituteFrom_of_none (he.trans hf), substituteFrom_of_none hf,
          ih 0 _ (Nat.zero_le _), List.cons_append]
      | some hit =>
        have hi : hit.more ≤ a.length := Nat.le_of_lt_succ (h.inside hf)
        rw [substituteFrom_of_hit (he.trans hf), substituteFrom_of_hit hf, ih _ _ hi,
          List.append_assoc]

theorem substitute_append (h : find.StopsAt sep) (a b : Text) :
    substitute find (a ++ sep :: b) = substitute find a ++ sep :: substitute find b :=
  h.substituteFrom_append 0 [] a b (Nat.zero_le _)

end Finder.StopsAt

section Insertion

variable {find : Finder} {x : Char} (h : ∀ {behind ahead hit}, find behind ahead = some hit → x ∉ hit.insert)

include h

private theorem not_mem_substituteFrom (n : Nat) (behind : Text) {t : Text} (ht : x ∉ t) :
    x ∉ substituteFrom find n behind t := by
  induction t generalizing n behind with
  | nil => simp [substituteFrom]
  | cons c t ih =>
    rw [List.mem_cons, not_or] at ht
    cases n with
    | succ n =>
      rw [substituteFrom]
      exact ih n _ ht.2
    | zero =>
      cases hf : find behind (c :: t) with
      | none =>
        rw [substituteFrom_of_none hf, List.mem_cons, not_or]
        exact ⟨ht.1, ih 0 _ ht.2⟩
      | some hit =>
        rw [substituteFrom_of_hit hf, List.mem_append, not_or]
        exact ⟨h hf, ih _ _ ht.2⟩

theorem not_mem_substitute {t : Text} (ht : x ∉ t) : x ∉ substitute find t :=
  not_mem_substituteFrom h 0 [] ht

end Insertion

section Replacement

variable {sep : Char} {old new : Text}

/-- A text without `sep` has to stand before the first `sep` as a whole. -/
private theorem isPrefixOf_append_barrier {part : Text} (h : sep ∉ part) (a b : Text) :
    part.isPrefixOf (a ++ sep :: b) = part.isPrefixOf a := by
  induction part generalizing a with
  | nil => simp
  | cons c part ih =>
    rw [List.mem_cons, not_or] at h
    cases a with
    | nil => simp [List.isPrefixOf, Ne.symm h.1]
    | cons d a => rw [List.cons_append, List.isPrefixOf, List.isPrefixOf, ih h.2]

theorem findUnlessWithin_eq_some {behind ahead : Text} {hit : Hit}
    (h : findUnlessWithin old new behind ahead = some hit) :
    old.isPrefixOf ahead ∧ hit.more = old.length - 1 ∧ (hit.insert = old ∨ hit.insert = new) := by
  unfold findUnlessWithin at h
  split at h
  · next hp =>
    obtain rfl := Option.some.inj h
    refine ⟨hp, rfl, ?_⟩
    split
    · exact .inl rfl
    · exact .inr rfl
  · cases h

theorem findUnlessWithin_stopsAt (ho : sep ∉ old) (hn : sep ∉ new) (hne : old ≠ []) :
    Finder.StopsAt (findUnlessWithin old new) sep where
  ahead behind a b := by
    have hd (k : Nat) : sep ∉ new.drop k := fun hm => hn (List.mem_of_mem_drop hm)
    have hw : liesWithin old new behind (a ++ sep :: b) = liesWithin old new behind a := by
      simp only [liesWithin, isPrefixOf_append_barrier (hd _)]
    unfold findUnlessWithin
    rw [hw, isPrefixOf_append_barrier ho]
  behind x y ahead := by
    have ht (k : Nat) : sep ∉ (new.take k).reverse := fun hm =>
      hn (List.mem_of_mem_take (List.mem_reverse.mp hm))
    have hw : liesWithin old new (x ++ sep :: y) ahead = liesWithin old new x ahead := by
      simp only [liesWithin, isPrefixOf_append_barrier (ht _)]
    unfold findUnlessWithin
    rw [hw]
  inside h := by
    obtain ⟨hp, hm, _⟩ := findUnlessWithin_eq_some h
    have hl := (List.isPrefixOf_iff_prefix.mp hp).length_le
    have hpos := List.length_pos_iff.mpr hne
    omega
  insert h := by
    obtain ⟨_, _, hi | hi⟩ := findUnlessWithin_eq_some h
    · rwa [hi]
    · rwa [hi]

theorem replaceUnlessWithin_nil (old new : Text) : replaceUnlessWithin old new [] = [] := by
  unfold replaceUnlessWithin
  split <;> rfl

theorem replaceUnlessWithin_append (ho : sep ∉ old) (hn : sep ∉ new) (a b : Text) :
    replaceUnlessWithin old new (a ++ sep :: b) =
      replaceUnlessWithin old new a ++ sep :: replaceUnlessWithin old new b := by
  unfold replaceUnlessWithin
  split
  · rfl
  · next he => exact (findUnlessWithin_stopsAt ho hn (by simpa using he)).substitute_append a b

theorem not_mem_replaceUnlessWithin (ho : sep ∉ old) (hn : sep ∉ new) {t : Text} (ht : sep ∉ t) :
    sep ∉ replaceUnlessWithin old new t := by
  unfold replaceUnlessWithin
  split
  · exact ht
  · next he => exact not_mem_substitute (findUnlessWithin_stopsAt ho hn (by simpa using he)).insert ht

end Replacement

section Qualifier

private theorem beforeClosing?_append (a b : Text) :
    beforeClosing? (a ++ '\n' :: b) = beforeClosing? a := by
  induction a with
  | nil => simp [beforeClosing?]
  | cons c a ih => simp only [List.cons_append, beforeClosing?, ih]

theorem findQualifier_stopsAt : Finder.StopsAt findQualifier '\n' where
  ahead behind a b := by
    rcases a with _ | ⟨c, _ | ⟨d, a⟩⟩
    · simp [findQualifier]
    · simp [findQualifier]
    · by_cases hc : c = ' '
      · by_cases hd : d = '('
        · subst hc hd
          simp only [List.cons_append, findQualifier, beforeClosing?_append]
        · simp [findQualifier, hd]
      · simp [findQualifier, hc]
  behind x y ahead := findQualifier_behind _ _ _
  inside h := by
    obtain ⟨q, r, rfl, -, -, rfl⟩ := findQualifier_eq_some_iff.mp h
    simp only [List.length_cons, List.length_append]
    omega
  insert h := by
    obtain ⟨_, _, -, -, -, rfl⟩ := findQualifier_eq_some_iff.mp h
    exact List.not_mem_nil

theorem dropQualifiers_append (a b : Text) :
    dropQualifiers (a ++ '\n' :: b) = dropQualifiers a ++ '\n' :: dropQualifiers b :=
  findQualifier_stopsAt.substitute_append a b

theorem not_mem_dropQualifiers {x : Char} {t : Text} (ht : x ∉ t) : x ∉ dropQualifiers t := by
  refine not_mem_substitute (fun h => ?_) ht
  obtain ⟨_, _, -, -, -, rfl⟩ := findQualifier_eq_some_iff.mp h
  exact List.not_mem_nil

end Qualifier

end FlagState.Text
