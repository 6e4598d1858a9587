import Mathlib.Logic.Relation
import Mathlib.Order.Basic
import FlagState.Proofs.Text.Barrier

/-!
A substitution as a run of exchanges: one find after the other gives way to what is written for it, and the
text around it stays. So what one exchange does to a text, whatever stands around it, any number of them
does, and with them the substitution (`substitute_reaches`).
-/
namespace FlagState.Text

open Relation (ReflTransGen)

variable {r : Text → Text → Prop}

section Substitution

variable {find : Finder} (h : ∀ {behind ahead hit}, find behind ahead = some hit →
  hit.insert = ahead.take (hit.more + 1) ∨
    ∀ front, r (front ++ ahead) (front ++ (hit.insert ++ ahead.drop (hit.more + 1))))

include h

private theorem substituteFrom_reaches (front behind t : Text) :
    ReflTransGen r (front ++ t) (front ++ substituteFrom find 0 behind t) := by
  match t with
  | [] => exact .refl
  | c :: u =>
    cases hf : find behind (c :: u) with
    | none =>
      have hrest := substituteFrom_reaches (front ++ [c]) (c :: behind) u
      rw [List.append_assoc, List.append_assoc] at hrest
      rw [substituteFrom_of_none hf]
      exact hrest
    | some hit =>
      have hlen : (u.drop hit.more).length < (c :: u).length := by
        rw [List.length_drop, List.length_cons]
        omega
      have hrest := substituteFrom_reaches (front ++ hit.insert) ((u.take hit.more).reverse ++ c :: behind)
        (u.drop hit.more)
      rw [List.append_assoc, List.append_assoc] at hrest
      rw [substituteFrom_of_hit hf, substituteFrom_skip]
      obtain hi | hr := h hf
      · have hcut : hit.insert ++ u.drop hit.more = c :: u := by
          rw [hi]
          exact List.take_append_drop (hit.more + 1) (c :: u)
        rwa [hcut] at hrest
      · exact .head (hr front) hrest
termination_by t.length

theorem substitute_reaches (t : Text) : ReflTransGen r t (substitute find t) :=
  substituteFrom_reaches h [] [] t

end Substitution

theorem replaceUnlessWithin_reaches {old new : Text}
    (h : ∀ front rest, r (front ++ (old ++ rest)) (front ++ (new ++ rest))) (t : Text) :
    ReflTransGen r t (replaceUnlessWithin old new t) := by
  unfold replaceUnlessWithin
  split
  · exact .refl
  · next he =>
    refine substitute_reaches (fun {behind ahead hit} hf => ?_) t
    obtain ⟨hp, hm, hi⟩ := findUnlessWithin_eq_some hf
    obtain ⟨rest, rfl⟩ := List.isPrefixOf_iff_prefix.mp hp
    have hl : hit.more + 1 = old.length := by
      have := List.length_pos_iff.mpr (show old ≠ [] by simpa using he)
      omega
    rw [hl, List.take_left, List.drop_left]
    refine hi.imp_right fun hn front => ?_
    rw [hn]
    exact h front rest

theorem dropQualifiers_reaches
    (h : ∀ front q rest, r (front ++ ' ' :: '(' :: (q ++ ')' :: rest)) (front ++ rest)) (t : Text) :
    ReflTransGen r t (dropQualifiers t) := by
  refine substitute_reaches (fun {behind ahead hit} hf => .inr fun front => ?_) t
  obtain ⟨q, rest, rfl, -, -, rfl⟩ := findQualifier_eq_some_iff.mp hf
  have hd : (' ' :: '(' :: (q ++ ')' :: rest)).drop (q.length + 2 + 1) = rest := by simp [List.drop_append]
  rw [hd]
  exact h front q rest

section Height

variable {α : Type} [Preorder α] {height : Text → α} {s t : Text}

theorem eq_or_lt_of_reaches (h : ReflTransGen (fun s t => height t < height s) s t) :
    t = s ∨ height t < height s := by
  induction h with
  | refl => exact .inl rfl
  | tail _ hlt ih =>
    obtain rfl | hle := ih
    · exact .inr hlt
    · exact .inr (hlt.trans hle)

theorem le_of_reaches (h : ReflTransGen (fun s t => height t ≤ height s) s t) : height t ≤ height s := by
  induction h with
  | refl => exact le_refl _
  | tail _ hle ih => exact hle.trans ih

end Height

end FlagState.Text
