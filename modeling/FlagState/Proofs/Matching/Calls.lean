import FlagState.Proofs.Matching.Seams

/-!
The calls of `next`, one by one. Each call gives the answer of its number, and nothing once the answers
have come to an end (`value_calls`). The answers are arms up to the first unknown country, which is the last
thing to be answered (`getElem?_answersAfter`, `calls_answer_in_order`).
-/
namespace FlagState
namespace Allocation

theorem getElem?_behind (previous : Option Allocation) (as : List Allocation) (i : Nat) :
    (behind previous as)[i]? = as[i]?.map fun a => (if i = 0 then previous else as[i - 1]?, a) := by
  induction as generalizing previous i with
  | nil => rfl
  | cons a as ih =>
    cases i with
    | zero => rfl
    | succ i =>
      rw [behind_cons, List.getElem?_cons_succ, List.getElem?_cons_succ, ih]
      cases i <;> rfl

theorem map_snd_behind (previous : Option Allocation) (as : List Allocation) :
    (behind previous as).map Prod.snd = as :=
  List.map_snd_zip (by simp)

end Allocation

namespace Matching

open Allocation (behind behind_cons getElem?_behind repeats)

section Calls

theorem journal_next (m : Matching) :
    m.next.journal = (m.answers.take 1).flatMap fun answer => answer.note.journal := by
  obtain ⟨x, previous, _ | ⟨a, as⟩⟩ := m
  · rfl
  · cases h : Answer.of x previous a <;> simp [next, answers, answersAfter, h]

theorem value_calls (n : Nat) (m : Matching) :
    (calls n m).value = (List.range n).map fun i => m.answers[i]? := by
  induction n generalizing m with
  | zero => rfl
  | succ n ih =>
    have hc : (calls (n + 1) m).value = m.next.value.1 :: (calls n m.next.value.2).value := rfl
    rw [hc, ih, answer_next, answers_next, List.range_succ_eq_map, List.map_cons, List.map_map,
      List.head?_eq_getElem?]
    simp only [List.getElem?_tail, Function.comp_def]

/-- A call that comes upon an unknown country notes it, and no other call notes anything. -/
theorem journal_calls (n : Nat) (m : Matching) :
    (calls n m).journal = (m.answers.take n).flatMap fun answer => answer.note.journal := by
  induction n generalizing m with
  | zero => rfl
  | succ n ih =>
    have hc : (calls (n + 1) m).journal = m.next.journal ++ ((calls n m.next.value.2).journal ++ []) := rfl
    rw [hc, List.append_nil, ih, answers_next, journal_next]
    cases m.answers <;> simp

/-- Nothing but its answers can be told from the calls of a matching. -/
theorem calls_congr {m k : Matching} (h : m.answers = k.answers) (n : Nat) : calls n m = calls n k := by
  have hv := value_calls n m
  have hj := journal_calls n m
  rw [h] at hv hj
  rw [← value_calls] at hv
  rw [← journal_calls] at hj
  cases hm : calls n m
  cases hk : calls n k
  simp_all

end Calls

section Positions

variable (x : Country.Index)

/-- How many allocations there are before the first whose country is unknown. -/
def knownCount (as : List Allocation) : Nat := as.findIdx fun a => (x.alpha2? a.country).isNone

theorem unknown?_eq_getElem? (as : List Allocation) : unknown? x as = as[knownCount x as]? :=
  List.find?_eq_getElem?_findIdx

theorem armsAfter_eq_map (previous : Option Allocation) (as : List Allocation) :
    armsAfter x (previous.map Allocation.mid) as =
      (behind previous (as.take (knownCount x as))).map (arm x) := by
  induction as generalizing previous with
  | nil => rfl
  | cons a as ih =>
    cases h : x.alpha2? a.country with
    | none =>
      have hk : knownCount x (a :: as) = 0 := by simp [knownCount, List.findIdx_cons, h]
      rw [armsAfter_cons_of_unknown h, hk]
      rfl
    | some alpha2 =>
      have hk : knownCount x (a :: as) = knownCount x as + 1 := by simp [knownCount, List.findIdx_cons, h]
      have ha : arm x (previous, a) = ⟨a.mid, alpha2, a.country, previous.map Allocation.mid = some a.mid⟩ := by
        simp [arm, repeats, h]
      rw [armsAfter_cons_of_known h, hk, List.take_succ_cons, behind_cons, List.map_cons, ha, ← ih (some a),
        Option.map_some]

/-- The arms are those of the first allocations. -/
theorem map_allocation_armsAfter (as : List Allocation) :
    (armsAfter x none as).map (fun arm => ⟨arm.mid, arm.country⟩) = as.take (knownCount x as) := by
  have hm := armsAfter_eq_map x none as
  rw [Option.map_none] at hm
  rw [hm, List.map_map]
  exact Allocation.map_snd_behind none _

theorem length_armsAfter (as : List Allocation) : (armsAfter x none as).length = knownCount x as := by
  have hm := armsAfter_eq_map x none as
  rw [Option.map_none] at hm
  rw [hm, List.length_map, Allocation.length_behind, List.length_take]
  exact Nat.min_eq_left List.findIdx_le_length

variable {x} {as : List Allocation} {i : Nat}

theorem getElem?_armsAfter (h : i < knownCount x as) :
    ∃ a, as[i]? = some a ∧ (x.alpha2? a.country).isSome = true ∧
      (armsAfter x none as)[i]? = some (arm x (if i = 0 then none else as[i - 1]?, a)) := by
  have hl : i < as.length := Nat.lt_of_lt_of_le h List.findIdx_le_length
  have hi : i - 1 < knownCount x as := by omega
  have hm := armsAfter_eq_map x none as
  rw [Option.map_none] at hm
  refine ⟨as[i], List.getElem?_eq_getElem hl, ?_, ?_⟩
  · simpa using List.not_of_lt_findIdx h
  · rw [hm, List.getElem?_map, getElem?_behind, List.getElem?_take_of_lt h, List.getElem?_take_of_lt hi,
      List.getElem?_eq_getElem hl]
    rfl

theorem knownCount_le {a : Allocation} (ha : as[i]? = some a) (hx : x.alpha2? a.country = none) :
    knownCount x as ≤ i := by
  refine Nat.le_of_not_lt fun h => ?_
  obtain ⟨b, hb, hs, -⟩ := getElem?_armsAfter h
  obtain rfl := Option.some.inj (ha.symm.trans hb)
  rw [hx] at hs
  cases hs

/-- Behind the arms there is at most one answer. -/
theorem getElem?_answersAfter (as : List Allocation) (i : Nat) :
    (answersAfter x none as)[i]? =
      if i < knownCount x as then ((armsAfter x none as)[i]?).map .ok
      else if i = knownCount x as then as[i]?.map .error
      else none := by
  rw [answersAfter_eq, unknown?_eq_getElem?, List.getElem?_append, List.length_map, length_armsAfter]
  split
  · rw [List.getElem?_map]
  next h =>
    split
    · next hi =>
      rw [hi, Nat.sub_self]
      cases as[knownCount x as]? <;> rfl
    · next hi =>
      obtain ⟨j, hj⟩ := Nat.exists_eq_add_of_lt (Nat.lt_of_le_of_ne (Nat.le_of_not_lt h) (Ne.symm hi))
      have hd : i - knownCount x as = j + 1 := by omega
      rw [hd]
      cases as[knownCount x as]? <;> rfl

theorem answersAfter_append_of_unknown {a : Allocation} (h : unknown? x as = some a)
    (previous : Option Text) (bs : List Allocation) :
    answersAfter x previous (as ++ bs) = answersAfter x previous as := by
  have hu : unknown? x (as ++ bs) = unknown? x as := by
    rw [unknown?, List.find?_append, ← unknown?, h, Option.some_or]
  rw [answersAfter_eq, answersAfter_eq, armsAfter_append_of_unknown h, hu]

theorem exists_unknown?_take (h : knownCount x as < as.length) :
    ∃ a, unknown? x (as.take (knownCount x as + 1)) = some a := by
  have hm : as[knownCount x as] ∈ as.take (knownCount x as + 1) := by
    rw [List.mem_take_iff_getElem]
    exact ⟨knownCount x as, by omega, rfl⟩
  have hs : unknown? x as = some as[knownCount x as] := by
    rw [unknown?_eq_getElem?, List.getElem?_eq_getElem h]
  rw [← Option.isSome_iff_exists, unknown?, List.find?_isSome]
  have hu : (x.alpha2? as[knownCount x as].country).isNone = true := by
    simpa using List.find?_some hs
  exact ⟨_, hm, hu⟩

end Positions

/-- The calls of a matching answer its allocations one after another, each with its own digits and country
and the code of the country, up to the first whose country is unknown. That one ends the matching: later
calls have no answer, and nothing depends on the allocations behind it. -/
theorem calls_answer_in_order (x : Country.Index) (as : List Allocation) (n : Nat) :
    let k := knownCount x as
    let calls (as : List Allocation) := (start x as).calls n
    let answer? (i : Nat) := (calls as).value[i]?
    (calls as).value.length = n ∧
    (∀ i < n, i < k → ∃ a arm, as[i]? = some a ∧ answer? i = some (some (.ok arm)) ∧
      arm.mid = a.mid ∧ arm.country = a.country ∧ x.alpha2? a.country = some arm.alpha2 ∧
      (arm.suppressed = true ↔ ∃ b, 0 < i ∧ as[i - 1]? = some b ∧ b.mid = a.mid)) ∧
    (∀ a, k < n → as[k]? = some a → answer? k = some (some (.error a))) ∧
    (∀ i < n, k < i ∨ as.length ≤ i → answer? i = some none) ∧
    ∀ rest, k < as.length → calls (as.take (k + 1) ++ rest) = calls as := by
  intro k calls answer?
  have hc {i : Nat} (hi : i < n) : answer? i = some ((answersAfter x none as)[i]?) := by
    simp only [answer?, calls, value_calls, List.getElem?_map, List.getElem?_range hi, Option.map_some]
    rfl
  refine ⟨?_, fun i hi hik => ?_, fun a hn ha => ?_, fun i hi he => ?_, fun rest hl => ?_⟩
  · simp only [calls, value_calls, List.length_map, List.length_range]
  · obtain ⟨a, ha, hs, harm⟩ := getElem?_armsAfter hik
    obtain ⟨alpha2, hx⟩ := Option.isSome_iff_exists.mp hs
    refine ⟨a, arm x (if i = 0 then none else as[i - 1]?, a), ha, ?_, rfl, rfl, ?_, ?_⟩
    · rw [hc hi, getElem?_answersAfter, if_pos hik, harm, Option.map_some]
    · simp only [arm, hx, Option.getD_some]
    · cases i with
      | zero => simp [arm, repeats]
      | succ i => simp [arm, repeats]
  · rw [hc hn, getElem?_answersAfter, if_neg (Nat.lt_irrefl k), if_pos rfl, ha, Option.map_some]
  · have hle : k ≤ as.length := List.findIdx_le_length
    have hik : ¬ i < knownCount x as := by omega
    rw [hc hi, getElem?_answersAfter, if_neg hik]
    split
    · next h =>
      rw [List.getElem?_eq_none (by omega), Option.map_none]
    · rfl
  · obtain ⟨a, ha⟩ := exists_unknown?_take hl
    refine calls_congr ?_ n
    have hd : as.take (k + 1) ++ as.drop (k + 1) = as := List.take_append_drop (k + 1) as
    calc (start x (as.take (k + 1) ++ rest)).answers
        = answersAfter x none (as.take (k + 1)) := answersAfter_append_of_unknown ha none rest
      _ = answersAfter x none (as.take (k + 1) ++ as.drop (k + 1)) :=
          (answersAfter_append_of_unknown ha none _).symm
      _ = (start x as).answers := by rw [hd]; rfl

end Matching
end FlagState
