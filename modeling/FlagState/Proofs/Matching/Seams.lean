import FlagState.Proofs.Matching

/-!
Matching one list of allocations behind another. The second list is answered as if it stood alone, but for
its first arm, which is suppressed if it repeats the digits at the seam (`armsAfter_append`). Behind an
unknown country nothing is answered any more (`armsAfter_append_of_unknown`).
-/
namespace FlagState

def Arm.suppress (a : Arm) : Arm := { a with suppressed := true }

/-- The digits at the end of `as` are those at the beginning of `bs`. -/
def Allocation.meet (as bs : List Allocation) : Bool := bs.head?.any fun b => repeats (as.getLast?, b)

namespace Matching

variable (x : Country.Index)

/-- The arms of the answers, suppressed ones included. -/
def armsAfter (previous : Option Text) (as : List Allocation) : List Arm :=
  (answersAfter x previous as).filterMap Except.toOption

/-- The allocation that ends the matching, if there is one. -/
def unknown? (as : List Allocation) : Option Allocation := as.find? fun a => (x.alpha2? a.country).isNone

section Steps

variable {x} {a : Allocation}

theorem answersAfter_cons_of_known {alpha2 : Text} (h : x.alpha2? a.country = some alpha2)
    (previous : Option Text) (as : List Allocation) :
    answersAfter x previous (a :: as) =
      .ok ⟨a.mid, alpha2, a.country, previous = some a.mid⟩ :: answersAfter x (some a.mid) as := by
  simp only [answersAfter, Answer.of, h]

theorem armsAfter_cons_of_known {alpha2 : Text} (h : x.alpha2? a.country = some alpha2)
    (previous : Option Text) (as : List Allocation) :
    armsAfter x previous (a :: as) =
      ⟨a.mid, alpha2, a.country, previous = some a.mid⟩ :: armsAfter x (some a.mid) as := by
  rw [armsAfter, answersAfter_cons_of_known h]
  rfl

theorem armsAfter_cons_of_unknown (h : x.alpha2? a.country = none) (previous : Option Text)
    (as : List Allocation) : armsAfter x previous (a :: as) = [] := by
  rw [armsAfter, answersAfter_unknown x h]
  rfl

theorem unknown?_cons_of_known {alpha2 : Text} (h : x.alpha2? a.country = some alpha2)
    (as : List Allocation) : unknown? x (a :: as) = unknown? x as := by
  simp [unknown?, h]

theorem unknown?_cons_of_unknown (h : x.alpha2? a.country = none) (as : List Allocation) :
    unknown? x (a :: as) = some a := by
  simp [unknown?, h]

theorem mem_armsAfter {previous : Option Text} {as : List Allocation} {arm : Arm}
    (h : arm ∈ armsAfter x previous as) :
    ∃ a ∈ as, arm.mid = a.mid ∧ arm.country = a.country ∧ x.alpha2? a.country = some arm.alpha2 := by
  induction as generalizing previous with
  | nil => cases h
  | cons a as ih =>
    cases hx : x.alpha2? a.country with
    | none =>
      rw [armsAfter_cons_of_unknown hx] at h
      cases h
    | some alpha2 =>
      rw [armsAfter_cons_of_known hx, List.mem_cons] at h
      obtain rfl | h := h
      · exact ⟨a, List.mem_cons_self, rfl, rfl, hx⟩
      · obtain ⟨b, hb, hm⟩ := ih h
        exact ⟨b, List.mem_cons_of_mem a hb, hm⟩

end Steps

/-- The arms come first; an unknown country can only be the last answer. -/
theorem answersAfter_eq (previous : Option Text) (as : List Allocation) :
    answersAfter x previous as =
      (armsAfter x previous as).map .ok ++ (unknown? x as).toList.map .error := by
  induction as generalizing previous with
  | nil => rfl
  | cons a as ih =>
    cases h : x.alpha2? a.country with
    | none =>
      rw [answersAfter_unknown x h, armsAfter_cons_of_unknown h, unknown?_cons_of_unknown h]
      rfl
    | some alpha2 =>
      rw [answersAfter_cons_of_known h, armsAfter_cons_of_known h, unknown?_cons_of_known h, ih]
      rfl

/-- Answers depend on the codes that the index gives, not on its order. -/
theorem answersAfter_congr {x y : Country.Index} (h : ∀ name, x.alpha2? name = y.alpha2? name)
    (previous : Option Text) (as : List Allocation) :
    answersAfter x previous as = answersAfter y previous as := by
  induction as generalizing previous with
  | nil => rfl
  | cons a as ih => simp only [answersAfter, Answer.of, h, ih]

section Seam

variable {x} {as : List Allocation}

theorem armsAfter_append_of_unknown {a : Allocation} (h : unknown? x as = some a) (previous : Option Text)
    (bs : List Allocation) : armsAfter x previous (as ++ bs) = armsAfter x previous as := by
  induction as generalizing previous with
  | nil => cases h
  | cons b as ih =>
    rw [List.cons_append]
    cases hx : x.alpha2? b.country with
    | none => rw [armsAfter_cons_of_unknown hx, armsAfter_cons_of_unknown hx]
    | some alpha2 =>
      rw [unknown?_cons_of_known hx] at h
      rw [armsAfter_cons_of_known hx, armsAfter_cons_of_known hx, ih h]

/-- The second list is matched from the digits that the first one ends with. -/
private theorem armsAfter_append_of_known (h : unknown? x as = none) (previous : Option Text)
    (bs : List Allocation) :
    armsAfter x previous (as ++ bs) =
      armsAfter x previous as ++ armsAfter x ((as.getLast?.map Allocation.mid).or previous) bs := by
  induction as generalizing previous with
  | nil => rfl
  | cons a as ih =>
    cases hx : x.alpha2? a.country with
    | none =>
      rw [unknown?_cons_of_unknown hx] at h
      cases h
    | some alpha2 =>
      rw [unknown?_cons_of_known hx] at h
      have hl : ((a :: as).getLast?.map Allocation.mid).or previous =
          (as.getLast?.map Allocation.mid).or (some a.mid) := by
        rw [List.getLast?_cons]
        cases as.getLast? <;> rfl
      rw [List.cons_append, armsAfter_cons_of_known hx, armsAfter_cons_of_known hx, ih h, hl]
      rfl

/-- The digits before a list make a difference to its first arm only. -/
private theorem armsAfter_seam (as bs : List Allocation) :
    armsAfter x (as.getLast?.map Allocation.mid) bs =
      if Allocation.meet as bs then (armsAfter x none bs).modifyHead Arm.suppress
      else armsAfter x none bs := by
  cases bs with
  | nil => simp [armsAfter, answersAfter, Allocation.meet]
  | cons b bs =>
    have hm : Allocation.meet as (b :: bs) = decide (as.getLast?.map Allocation.mid = some b.mid) := rfl
    rw [hm]
    cases hx : x.alpha2? b.country with
    | none => simp only [armsAfter_cons_of_unknown hx, List.modifyHead_nil, ite_self]
    | some alpha2 =>
      rw [armsAfter_cons_of_known hx, armsAfter_cons_of_known hx]
      by_cases hs : as.getLast?.map Allocation.mid = some b.mid
      · simp [hs, Arm.suppress]
      · simp [hs]

theorem armsAfter_append (h : unknown? x as = none) (bs : List Allocation) :
    armsAfter x none (as ++ bs) =
      armsAfter x none as ++
        if Allocation.meet as bs then (armsAfter x none bs).modifyHead Arm.suppress
        else armsAfter x none bs := by
  rw [armsAfter_append_of_known h, Option.or_none, armsAfter_seam]

/-- With nothing before it, the first arm is not suppressed. -/
theorem suppressed_head_armsAfter (as : List Allocation) :
    ∀ arm ∈ (armsAfter x none as).head?, arm.suppressed = false := by
  intro arm h
  cases as with
  | nil => cases h
  | cons a as =>
    cases hx : x.alpha2? a.country with
    | none =>
      rw [armsAfter_cons_of_unknown hx] at h
      cases h
    | some alpha2 =>
      rw [armsAfter_cons_of_known hx] at h
      obtain rfl := Option.some.inj h
      rfl

end Seam
end Matching
end FlagState
