import FlagState.Allocation
import FlagState.Arm
import FlagState.Country.Index

/-!
Matching allocations against the country index, one at a time and in order. The first allocation whose
country is unknown ends the matching. What the calls of `next` answer one by one is the list `answers`
(`answer_next`, `answers_next`).
-/
namespace FlagState

/-- An arm, or the allocation whose country is unknown. -/
abbrev Answer := Except Allocation Arm

/-- An arm is suppressed if its digits are those of the allocation right before it. -/
def Answer.of (x : Country.Index) (previous : Option Text) (a : Allocation) : Answer :=
  match x.alpha2? a.country with
  | some alpha2 => .ok ⟨a.mid, alpha2, a.country, previous = some a.mid⟩
  | none => .error a

/-- Only an unknown country is noted. -/
def Answer.note : Answer → Noted Unit
  | .ok _ => return
  | .error a => do
    Noted.count .unmatchedCountries
    Noted.event (.unmatched a.mid a.country)

structure Matching where
  index : Country.Index
  /-- The digits of the allocation before. -/
  previous : Option Text
  pending : List Allocation

namespace Matching

def start (x : Country.Index) (as : List Allocation) : Matching := ⟨x, none, as⟩

/-- The next answer, if there is one, and the matching after it. -/
def next (m : Matching) : Noted (Option Answer × Matching) :=
  match m.pending with
  | [] => return (none, m)
  | a :: as => do
    let answer := Answer.of m.index m.previous a
    answer.note
    match answer with
    | .ok _ => return (some answer, ⟨m.index, some a.mid, as⟩)
    | .error _ => return (some answer, ⟨m.index, m.previous, []⟩)

/-- The answers to `n` calls of `next`. -/
def calls : Nat → Matching → Noted (List (Option Answer))
  | 0, _ => return []
  | n + 1, m => do
    let (answer, m) ← m.next
    return answer :: (← calls n m)

/-- All answers to allocations that follow the digits `previous`. -/
def answersAfter (x : Country.Index) (previous : Option Text) : List Allocation → List Answer
  | [] => []
  | a :: as =>
    match Answer.of x previous a with
    | .ok arm => .ok arm :: answersAfter x (some a.mid) as
    | .error b => [.error b]

def answers (m : Matching) : List Answer := answersAfter m.index m.previous m.pending

theorem answer_next (m : Matching) : m.next.value.1 = m.answers.head? := by
  obtain ⟨x, previous, _ | ⟨a, as⟩⟩ := m
  · rfl
  · cases h : Answer.of x previous a <;> simp only [next, answers, answersAfter, h, Noted.value_bind, Noted.value_pure,
      List.head?_cons]

theorem answers_next (m : Matching) : m.next.value.2.answers = m.answers.tail := by
  obtain ⟨x, previous, _ | ⟨a, as⟩⟩ := m
  · rfl
  · cases h : Answer.of x previous a <;> simp only [next, answers, answersAfter, h, Noted.value_bind, Noted.value_pure,
      List.tail_cons]

end Matching
end FlagState
