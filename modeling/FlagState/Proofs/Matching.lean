import FlagState.Matching

/-!
Allocations whose countries are known are answered by arms; which arms are suppressed can be told from
each allocation and the one right before it (`answersAfter_append`).
-/
namespace FlagState
namespace Allocation

/-- Each allocation behind the one right before it, the first one behind `previous`. -/
def behind (previous : Option Allocation) (as : List Allocation) : List (Option Allocation × Allocation) :=
  (previous :: as.map some).zip as

theorem behind_cons (previous : Option Allocation) (a : Allocation) (as : List Allocation) :
    behind previous (a :: as) = (previous, a) :: behind (some a) as := rfl

theorem length_behind (previous : Option Allocation) (as : List Allocation) :
    (behind previous as).length = as.length := by
  simp [behind]

theorem exists_behind (previous : Option Allocation) {as : List Allocation} {i : Nat} {a : Allocation}
    (h : as[i]? = some a) : ∃ p, (behind previous as)[i]? = some (p, a) := by
  induction as generalizing previous i with
  | nil => simp at h
  | cons b as ih =>
    cases i with
    | zero => exact ⟨previous, by simpa [behind_cons] using h⟩
    | succ i => exact ih (some b) h

/-- The digits are those of the allocation before. -/
def repeats (p : Option Allocation × Allocation) : Bool := p.1.map mid = some p.2.mid

end Allocation

namespace Matching

open Allocation (behind behind_cons repeats)

variable (x : Country.Index)

/-- The arm of an allocation whose country is known. -/
def arm (p : Option Allocation × Allocation) : Arm :=
  ⟨p.2.mid, (x.alpha2? p.2.country).getD [], p.2.country, repeats p⟩

private theorem answer_of_known {a : Allocation} (h : (x.alpha2? a.country).isSome = true)
    (previous : Option Allocation) :
    Answer.of x (previous.map Allocation.mid) a = .ok (arm x (previous, a)) := by
  obtain ⟨alpha2, ha⟩ := Option.isSome_iff_exists.mp h
  simp [Answer.of, arm, ha, repeats]

/-- What comes of `rest` must not depend on the digits before it. -/
theorem answersAfter_append {as rest : List Allocation} {answers : List Answer}
    (h : ∀ a ∈ as, (x.alpha2? a.country).isSome = true)
    (hr : ∀ digits, answersAfter x digits rest = answers) (previous : Option Allocation) :
    answersAfter x (previous.map Allocation.mid) (as ++ rest) =
      (behind previous as).map (fun p => .ok (arm x p)) ++ answers := by
  induction as generalizing previous with
  | nil => exact hr _
  | cons a as ih =>
    have hi := ih (fun b hb => h b (List.mem_cons_of_mem _ hb)) (some a)
    rw [List.cons_append, answersAfter, answer_of_known x (h a List.mem_cons_self)]
    simp only [behind_cons, List.map_cons, List.cons_append]
    exact congrArg _ hi

theorem answersAfter_of_known {as : List Allocation} (h : ∀ a ∈ as, (x.alpha2? a.country).isSome = true)
    (previous : Option Allocation) :
    answersAfter x (previous.map Allocation.mid) as = (behind previous as).map fun p => .ok (arm x p) := by
  have hr (digits : Option Text) : answersAfter x digits [] = [] := rfl
  have ha := answersAfter_append x h hr previous
  rwa [List.append_nil, List.append_nil] at ha

theorem answersAfter_unknown {a : Allocation} (h : x.alpha2? a.country = none) (as : List Allocation)
    (digits : Option Text) : answersAfter x digits (a :: as) = [.error a] := by
  simp only [answersAfter, Answer.of, h]

end Matching
end FlagState
