import FlagState.Proofs.Matching

/-!
Suppressed arms are not missed. What decides for given digits is the first arm of them, and the arms that
are left begin with the one of the first allocation of these digits (`find?_leaders`). No arm is left
over if and only if allocations of the same digits stand next to each other (`nodup_leaders`).
-/
namespace FlagState
namespace Allocation

/-- The allocations that do not repeat the digits of the one right before them. -/
def leaders (previous : Option Allocation) (as : List Allocation) : List Allocation :=
  ((behind previous as).filter fun p => !repeats p).map Prod.snd

/-- Equal digits stand next to each other: no others come between them. -/
def Grouped (as : List Allocation) : Prop :=
  ∀ m n : Text, [m, n, m].Sublist (as.map mid) → n = m

theorem leaders_cons_of_repeats {p : Option Allocation} {a : Allocation} (h : p.map mid = some a.mid)
    (as : List Allocation) : leaders p (a :: as) = leaders (some a) as := by
  unfold leaders
  rw [behind_cons, List.filter_cons_of_neg (by simp [repeats, h])]

theorem leaders_cons_of_not_repeats {p : Option Allocation} {a : Allocation}
    (h : p.map mid ≠ some a.mid) (as : List Allocation) :
    leaders p (a :: as) = a :: leaders (some a) as := by
  unfold leaders
  rw [behind_cons, List.filter_cons_of_pos (by simp [repeats, h]), List.map_cons]

/-- The digits before the first allocation are the only ones whose leader may be missing. -/
theorem find?_leaders {p : Option Allocation} {m : Text} (h : p.map mid ≠ some m)
    (as : List Allocation) :
    (leaders p as).find? (fun a => a.mid = m) = as.find? fun a => a.mid = m := by
  induction as generalizing p with
  | nil => rfl
  | cons a as ih =>
    by_cases ha : a.mid = m
    · rw [leaders_cons_of_not_repeats (by rwa [ha]), List.find?_cons_of_pos (by simpa using ha),
        List.find?_cons_of_pos (by simpa using ha)]
    · have hi : (leaders (some a) as).find? (fun b => b.mid = m) = as.find? fun b => b.mid = m :=
        ih (by simpa using ha)
      rw [List.find?_cons_of_neg (by simpa using ha), ← hi]
      by_cases hp : p.map mid = some a.mid
      · rw [leaders_cons_of_repeats hp]
      · rw [leaders_cons_of_not_repeats hp, List.find?_cons_of_neg (by simpa using ha)]

theorem mem_mid_leaders {p : Option Allocation} {m : Text} (h : p.map mid ≠ some m)
    (as : List Allocation) : m ∈ (leaders p as).map mid ↔ m ∈ as.map mid := by
  have hf := congrArg Option.isSome (find?_leaders h as)
  simpa [List.find?_isSome] using Bool.eq_iff_iff.mp hf

section Grouped

variable {a b : Allocation} {as : List Allocation}

private theorem grouped_cons : Grouped (a :: as) ↔
    Grouped as ∧ ∀ n, [n, a.mid].Sublist (as.map mid) → n = a.mid := by
  unfold Grouped
  rw [List.map_cons]
  constructor
  · intro h
    exact ⟨fun m n hs => h m n (hs.cons a.mid), fun n hs => h a.mid n (hs.cons_cons a.mid)⟩
  · rintro ⟨hg, ha⟩ m n hs
    rcases List.sublist_cons_iff.mp hs with hs | ⟨r, hr, hs⟩
    · exact hg m n hs
    · obtain ⟨rfl, rfl⟩ := List.cons.inj hr
      exact ha n hs

private theorem grouped_cons_of_eq (h : a.mid = b.mid) : Grouped (a :: b :: as) ↔ Grouped (b :: as) := by
  rw [grouped_cons, h, List.map_cons]
  refine and_iff_left_of_imp fun hg n hs => ?_
  rcases List.sublist_cons_iff.mp hs with hs | ⟨r, hr, -⟩
  · exact hg b.mid n (hs.cons_cons b.mid)
  · exact (List.cons.inj hr).1

private theorem grouped_cons_of_ne (h : a.mid ≠ b.mid) :
    Grouped (a :: b :: as) ↔ a.mid ∉ (b :: as).map mid ∧ Grouped (b :: as) := by
  rw [grouped_cons, and_comm]
  refine and_congr_left fun _ => ⟨fun ha hm => ?_, fun hn n hs => ?_⟩
  · -- The digits of `b` would stand between two that are equal.
    have hm : a.mid ∈ as.map mid := (List.mem_cons.mp hm).resolve_left h
    have hs : [b.mid, a.mid].Sublist ((b :: as).map mid) :=
      (List.singleton_sublist.mpr hm).cons_cons b.mid
    exact h (ha b.mid hs).symm
  · have hm : a.mid ∈ [n, a.mid] := by simp
    exact absurd (hs.subset hm) hn

private theorem grouped_singleton (a : Allocation) : Grouped [a] := by
  intro m n hs
  have hl := hs.length_le
  simp at hl

end Grouped

theorem nodup_leaders (a : Allocation) (as : List Allocation) :
    ((a :: leaders (some a) as).map mid).Nodup ↔ Grouped (a :: as) := by
  induction as generalizing a with
  | nil => simp [leaders, behind, grouped_singleton]
  | cons b as ih =>
    by_cases h : a.mid = b.mid
    · have hp : (some a).map mid = some b.mid := congrArg some h
      rw [leaders_cons_of_repeats hp, grouped_cons_of_eq h, ← ih b, List.map_cons, List.map_cons, h]
    · have hp : (some a).map mid ≠ some b.mid := by simpa using h
      have hm : a.mid ∈ (b :: leaders (some b) as).map mid ↔ a.mid ∈ (b :: as).map mid := by
        rw [List.map_cons, List.map_cons, List.mem_cons, List.mem_cons,
          mem_mid_leaders (by simpa using Ne.symm h)]
      rw [leaders_cons_of_not_repeats hp, grouped_cons_of_ne h, ← ih b, List.map_cons, List.nodup_cons, hm]

theorem nodup_leaders_none (as : List Allocation) : ((leaders none as).map mid).Nodup ↔ Grouped as := by
  cases as with
  | nil => simp [leaders, behind, Grouped]
  | cons a as => rw [leaders_cons_of_not_repeats (by simp), nodup_leaders]

end Allocation

namespace Matching

/-- The answers that `n` calls of `next` give. -/
def answersIn (n : Nat) (m : Matching) : List Answer := (calls n m).value.filterMap id

theorem answersIn_eq_take (n : Nat) (m : Matching) : answersIn n m = m.answers.take n := by
  induction n generalizing m with
  | zero => rfl
  | succ n ih =>
    have hi : (calls n m.next.value.2).value.filterMap id = m.answers.tail.take n := by
      rw [← answers_next]
      exact ih m.next.value.2
    have hc : (calls (n + 1) m).value = m.answers.head? :: (calls n m.next.value.2).value := by
      rw [← answer_next]
      rfl
    unfold answersIn
    rw [hc]
    cases h : m.answers with
    | nil => simpa [h] using hi
    | cons a as => simpa [h] using hi

/-- The arms of answers that are not commented out. -/
def activeArms (answers : List Answer) : List Arm :=
  answers.filterMap fun
    | .ok arm => if arm.suppressed then none else some arm
    | .error _ => none

variable {x : Country.Index} {as : List Allocation}

/-- The arm of an allocation that is no repetition. -/
def activeArm (x : Country.Index) (a : Allocation) : Arm :=
  ⟨a.mid, (x.alpha2? a.country).getD [], a.country, false⟩

theorem activeArms_of_known (h : ∀ a ∈ as, (x.alpha2? a.country).isSome = true) {n : Nat}
    (hn : as.length ≤ n) :
    activeArms (answersIn n (start x as)) = (Allocation.leaders none as).map (activeArm x) := by
  have hl : (Allocation.behind none as).length ≤ n := by rwa [Allocation.length_behind]
  have ha : (start x as).answers = (Allocation.behind none as).map fun p => .ok (arm x p) :=
    answersAfter_of_known x h none
  rw [answersIn_eq_take, ha, List.take_of_length_le (by rwa [List.length_map])]
  unfold activeArms Allocation.leaders
  rw [List.filterMap_map, List.map_map, ← List.filterMap_eq_map, List.filterMap_filter]
  congr 1
  funext p
  cases hp : Allocation.repeats p <;> simp [arm, activeArm, hp]

/-- Tried in order, the arms that are not suppressed answer as if every allocation had an arm of its own:
the first allocation of given digits decides. They are all of use only where equal digits stand together. -/
theorem first_active_arm (x : Country.Index) (as : List Allocation)
    (h : ∀ a ∈ as, (x.alpha2? a.country).isSome = true) (n : Nat) (hn : as.length ≤ n) :
    let arms := activeArms (answersIn n (start x as))
    (∀ m : Text,
      ((∃ arm ∈ arms, arm.mid = m) ↔ ∃ a ∈ as, a.mid = m) ∧
        (arms.find? fun arm => arm.mid = m).map Arm.alpha2 =
          (as.find? fun a => a.mid = m).bind fun a => x.alpha2? a.country) ∧
      ((arms.map Arm.mid).Nodup ↔ Allocation.Grouped as) := by
  have hm (bs : List Allocation) : (bs.map (activeArm x)).map Arm.mid = bs.map Allocation.mid := by
    rw [List.map_map]
    rfl
  simp only [activeArms_of_known h hn]
  refine ⟨fun m => ⟨?_, ?_⟩, ?_⟩
  · have hl := Allocation.mem_mid_leaders (p := none) (m := m) (by simp) as
    rw [← hm, List.mem_map, List.mem_map] at hl
    exact hl
  · have hf : ((Allocation.leaders none as).map (activeArm x)).find? (fun arm => arm.mid = m) =
        (as.find? fun a => a.mid = m).map (activeArm x) := by
      rw [List.find?_map, ← Allocation.find?_leaders (p := none) (by simp) as]
      rfl
    rw [hf]
    cases ha : as.find? fun a => a.mid = m with
    | none => rfl
    | some a =>
      obtain ⟨alpha2, hx⟩ := Option.isSome_iff_exists.mp (h a (List.mem_of_find?_eq_some ha))
      simp [activeArm, hx]
  · rw [hm, Allocation.nodup_leaders_none]

def neighbours : Country.Index :=
  (Country.Index.empty.insert ⟨"A", "AA", "AAA", "1"⟩).insert ⟨"B", "BB", "BBB", "2"⟩

def scattered : List Allocation := [⟨"306", "A"⟩, ⟨"306", "B"⟩, ⟨"307", "A"⟩, ⟨"306", "B"⟩]

/-- The second allocation is suppressed, the fourth comes too late. -/
theorem first_active_arm_scattered :
    (∀ a ∈ scattered, (neighbours.alpha2? a.country).isSome = true) ∧ scattered.length ≤ 5 ∧
      ((activeArms (answersIn 5 (start neighbours scattered))).find?
        fun arm => arm.mid = ("306" : Text)).map Arm.alpha2 = some ("AA" : Text) ∧
      ¬ ((activeArms (answersIn 5 (start neighbours scattered))).map Arm.mid).Nodup := by
  have hk : ∀ a ∈ scattered, (neighbours.alpha2? a.country).isSome = true := by decide +kernel
  have hn : scattered.length ≤ 5 := by decide
  obtain ⟨hm, hd⟩ := first_active_arm neighbours scattered hk 5 hn
  refine ⟨hk, hn, (hm "306").2.trans ?_, fun h => ?_⟩
  · decide +kernel
  · have hg : ("307" : Text) = "306" := hd.mp h "306" "307" (by decide +kernel)
    exact absurd hg (by decide +kernel)

end Matching
end FlagState
