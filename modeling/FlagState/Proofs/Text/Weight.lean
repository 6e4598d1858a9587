import Mathlib.Algebra.Order.Monoid.Prod
import Mathlib.Algebra.BigOperators.Group.List.Basic
import FlagState.Proofs.Text.Exchange

/-!
Texts weighed by their characters. A substitution that puts something lighter in the place of every find, or
the find itself, makes a text lighter unless it leaves it as it is (`weight_replaceUnlessWithin`,
`weight_dropQualifiers`).
-/
namespace FlagState.Text

variable {G : Type} [AddCommMonoid G] [PartialOrder G] [IsOrderedCancelAddMonoid G] {w : Char → G}

def weight (w : Char → G) (t : Text) : G := (t.map w).sum

omit [PartialOrder G] [IsOrderedCancelAddMonoid G] in
theorem weight_append (s t : Text) : weight w (s ++ t) = weight w s + weight w t := by
  simp [weight]

omit [PartialOrder G] [IsOrderedCancelAddMonoid G] in
theorem weight_cons (c : Char) (t : Text) : weight w (c :: t) = w c + weight w t := by
  simp [weight]

theorem weight_replaceUnlessWithin {old new : Text} (h : weight w new < weight w old) (t : Text) :
    replaceUnlessWithin old new t = t ∨ weight w (replaceUnlessWithin old new t) < weight w t := by
  refine eq_or_lt_of_reaches (replaceUnlessWithin_reaches (fun front rest => ?_) t)
  rw [weight_append, weight_append, weight_append, weight_append]
  exact add_lt_add_right (add_lt_add_left h _) _

theorem weight_dropQualifiers (h : ∀ q : Text, 0 < weight w (' ' :: '(' :: (q ++ [')']))) (t : Text) :
    dropQualifiers t = t ∨ weight w (dropQualifiers t) < weight w t := by
  refine eq_or_lt_of_reaches (dropQualifiers_reaches (fun front q rest => ?_) t)
  have hq : ' ' :: '(' :: (q ++ ')' :: rest) = ' ' :: '(' :: (q ++ [')']) ++ rest := by simp
  rw [hq, weight_append, weight_append, weight_append]
  exact add_lt_add_right (lt_add_of_pos_left _ (h q)) _

end FlagState.Text
