import FlagState.Text

/-!
Counts of two characters that stand in order, next to each other or not. Neither is a sum over the characters
of a text, but of a text put together from two both are told by its parts (`pairs_append`,
`spacesBehind_append`).
-/
namespace FlagState.Text

section Pairs

variable (x y : Char)

/-- How many pairs there are of an `x` and a `y` anywhere behind it. -/
def pairs : Text → Nat
  | [] => 0
  | c :: t => (if c = x then t.count y else 0) + pairs t

theorem pairs_append (s t : Text) :
    pairs x y (s ++ t) = pairs x y s + s.count x * t.count y + pairs x y t := by
  induction s with
  | nil => simp [pairs]
  | cons c s ih =>
    by_cases hc : c = x
    · subst hc
      rw [List.cons_append, pairs, pairs, if_pos rfl, if_pos rfl, ih, List.count_append, List.count_cons_self,
        Nat.add_one_mul]
      omega
    · rw [List.cons_append, pairs, pairs, if_neg hc, if_neg hc, ih, List.count_cons_of_ne hc]
      omega

end Pairs

section Spaces

variable {letters s t : Text}

/-- How many spaces stand right behind one of the letters. -/
def spacesBehind (letters : Text) : Text → Nat
  | [] => 0
  | c :: t => (if c ∈ letters ∧ ' ' ∈ t.head? then 1 else 0) + spacesBehind letters t

/-- One more may come in at the seam. -/
theorem spacesBehind_append (letters s t : Text) :
    spacesBehind letters (s ++ t) =
      spacesBehind letters s + (if s.getLast?.any (· ∈ letters) ∧ ' ' ∈ t.head? then 1 else 0) +
        spacesBehind letters t := by
  induction s with
  | nil => simp [spacesBehind]
  | cons c s ih =>
    rw [List.cons_append, spacesBehind, spacesBehind, ih]
    cases s with
    | nil => simp [spacesBehind]
    | cons d s =>
      have hhead : (d :: s ++ t).head? = (d :: s).head? := rfl
      rw [hhead, List.getLast?_cons_cons]
      omega

theorem le_spacesBehind_append (letters s t : Text) :
    spacesBehind letters s + spacesBehind letters t ≤ spacesBehind letters (s ++ t) := by
  rw [spacesBehind_append]
  omega

theorem spacesBehind_append_of_head (letters s : Text) (h : ' ' ∉ t.head?) :
    spacesBehind letters (s ++ t) = spacesBehind letters s + spacesBehind letters t := by
  rw [spacesBehind_append, if_neg fun hs => h hs.2, Nat.add_zero]

theorem spacesBehind_append_of_last (h : ∀ c ∈ s.getLast?, c ∉ letters) (t : Text) :
    spacesBehind letters (s ++ t) = spacesBehind letters s + spacesBehind letters t := by
  have hs : ¬ s.getLast?.any (· ∈ letters) = true := by
    rw [Option.any_eq_true]
    rintro ⟨c, hc, hm⟩
    exact h c hc (of_decide_eq_true hm)
  rw [spacesBehind_append, if_neg fun hb => hs hb.1, Nat.add_zero]

end Spaces

end FlagState.Text
