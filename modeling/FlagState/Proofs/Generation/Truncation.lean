import FlagState.Proofs.Generation.Writing

/-!
Repeated runs into sinks of limited capacity. What the sinks hold is cut off from what they would hold
without limits (`Truncated`); a run that has no room for its diagnostics leaves the listing alone.
-/
namespace FlagState.Generation

variable {tables : Tables} {l : Listing} {diagnostics : Sink}

private theorem runs_cons (n : Nat) (l : Listing) (diagnostics : Sink) :
    (runs tables (n + 1) l diagnostics).value =
      let first := (run tables l diagnostics).value
      let rest := (runs tables n first.listing first.diagnostics).value
      (first.outcome :: rest.1, rest.2.1, rest.2.2) := rfl

/-- The last of several runs starts from what the others left behind. -/
theorem runs_succ (n : Nat) :
    let before := (runs tables n l diagnostics).value
    let last := (run tables before.2.1 before.2.2).value
    (runs tables (n + 1) l diagnostics).value =
      (before.1 ++ [last.outcome], last.listing, last.diagnostics) := by
  induction n generalizing l diagnostics with
  | zero => rfl
  | succ n ih =>
    simp only [runs_cons (n + 1)]
    rw [ih]
    simp only [runs_cons n, List.cons_append]

private theorem length_runs (n : Nat) : (runs tables n l diagnostics).value.1.length = n := by
  induction n with
  | zero => rfl
  | succ n ih => rw [runs_succ, List.length_append, ih, List.length_singleton]

theorem getElem?_runs {i n : Nat} (h : i < n) :
    (runs tables n l diagnostics).value.1[i]? =
      some (run tables (runs tables i l diagnostics).value.2.1
        (runs tables i l diagnostics).value.2.2).value.outcome := by
  induction n with
  | zero => exact absurd h (Nat.not_lt_zero i)
  | succ n ih =>
    have hl : (runs tables n l diagnostics).value.1.length = n := length_runs n
    rw [runs_succ]
    obtain hi | rfl := Nat.lt_succ_iff_lt_or_eq.mp h
    · rw [List.getElem?_append_left (hl.symm ▸ hi), ih hi]
    · rw [List.getElem?_append_right (by omega), hl, Nat.sub_self]
      rfl

/-- How many of `n` runs find room for all their diagnostics, of `size` bytes each. -/
def diagnosed (d size n : Nat) : Nat := (List.range n).countP fun i => (i + 1) * size ≤ d

private theorem diagnosed_eq {d size n : Nat} (h : (n + 1) * size ≤ d) : diagnosed d size n = n := by
  unfold diagnosed
  rw [List.countP_eq_length.mpr, List.length_range]
  intro i hi
  have hle : (i + 1) * size ≤ (n + 1) * size :=
    Nat.mul_le_mul_right size (List.mem_range.mp hi |> Nat.le_succ_of_le)
  exact decide_eq_true (Nat.le_trans hle h)

private theorem diagnosed_succ (d size n : Nat) :
    diagnosed d size (n + 1) = diagnosed d size n + if (n + 1) * size ≤ d then 1 else 0 := by
  simp [diagnosed, List.range_succ, List.countP_append, List.countP_singleton]

private theorem length_repeated_append (n : Nat) (bytes : List UInt8) :
    ((List.replicate n bytes).flatten ++ bytes).length = (n + 1) * bytes.length := by
  simp [Nat.succ_mul]

private theorem repeated_succ (n : Nat) (bytes : List UInt8) :
    (List.replicate (n + 1) bytes).flatten = (List.replicate n bytes).flatten ++ bytes := by
  rw [List.replicate_succ', List.flatten_concat]

/-- What `n` runs leave behind in a listing of `c` bytes and diagnostics of `d` bytes. -/
structure Truncated (tables : Tables) (layout : Layout) (functionName : Text) (c d n : Nat)
    (l : Listing) (diagnostics : Sink) : Prop where
  layout_eq : l.layout = layout
  functionName_eq : l.functionName = functionName
  listing_capacity : l.sink.capacity = some c
  diagnostics_capacity : diagnostics.capacity = some d
  listing_offered : l.sink.Offered (List.replicate (diagnosed d (diagnosis tables).utf8.length n)
    (listed tables layout functionName).utf8).flatten
  diagnostics_offered : diagnostics.Offered (List.replicate n (diagnosis tables).utf8).flatten
  diagnostics_flushes : diagnostics.flushes = 0

namespace Truncated

variable {layout : Layout} {functionName : Text} {c d n : Nat}
  (h : Truncated tables layout functionName c d n l diagnostics)

include h

private theorem diagnostics_complete_iff :
    (diagnostics.write (diagnosis tables)).2 = true ↔
      (n + 1) * (diagnosis tables).utf8.length ≤ d := by
  rw [h.diagnostics_offered.write_complete_iff, h.diagnostics_capacity]
  simp only [Option.mem_some_iff, forall_eq', length_repeated_append]
  refine ⟨?_, .inr⟩
  rintro (hn | hle)
  · simp [hn]
  · exact hle

private theorem listing_complete_iff (hd : (n + 1) * (diagnosis tables).utf8.length ≤ d) :
    (l.write (listed tables l.layout l.functionName)).2 = true ↔
      (listed tables layout functionName).utf8 = [] ∨
        (n + 1) * (listed tables layout functionName).utf8.length ≤ c := by
  have ho := h.listing_offered
  rw [diagnosed_eq hd] at ho
  rw [h.layout_eq, h.functionName_eq]
  refine (ho.write_complete_iff _).trans ?_
  rw [h.listing_capacity]
  simp only [Option.mem_some_iff, forall_eq', length_repeated_append]

private theorem write_diagnostics :
    (diagnostics.write (diagnosis tables)).1.Offered
      (List.replicate (n + 1) (diagnosis tables).utf8).flatten := by
  rw [repeated_succ]
  exact h.diagnostics_offered.write _

private theorem write_listing (hd : (n + 1) * (diagnosis tables).utf8.length ≤ d) :
    (l.write (listed tables l.layout l.functionName)).1.sink.Offered
      (List.replicate (diagnosed d (diagnosis tables).utf8.length (n + 1))
        (listed tables layout functionName).utf8).flatten := by
  rw [diagnosed_succ, if_pos hd, repeated_succ, h.layout_eq, h.functionName_eq]
  exact h.listing_offered.write _

/-- Without room for the diagnostics, nothing is listed and nothing flushed. -/
theorem run_of_lt (hd : d < (n + 1) * (diagnosis tables).utf8.length) :
    let r := (run tables l diagnostics).value
    r.outcome = .error (.io .full) ∧ r.listing = l ∧
      Truncated tables layout functionName c d (n + 1) r.listing r.diagnostics := by
  have hw : (diagnostics.write (diagnosis tables)).2 = false := by
    rw [← Bool.not_eq_true, h.diagnostics_complete_iff]
    omega
  rw [run_of_full_diagnostics hw]
  have ho := h.listing_offered
  have hm : diagnosed d (diagnosis tables).utf8.length (n + 1) =
      diagnosed d (diagnosis tables).utf8.length n := by
    rw [diagnosed_succ, if_neg (Nat.not_le.mpr hd), Nat.add_zero]
  rw [← hm] at ho
  exact ⟨rfl, rfl, { h with listing_offered := ho, diagnostics_offered := h.write_diagnostics }⟩

/-- A whole run flushes the listing once and ends as it would without limits. -/
theorem run_of_fits (hd : (n + 1) * (diagnosis tables).utf8.length ≤ d)
    (hl : (listed tables layout functionName).utf8 = [] ∨
      (n + 1) * (listed tables layout functionName).utf8.length ≤ c) :
    let r := (run tables l diagnostics).value
    r.outcome = conclusion tables ∧ r.listing.sink.flushes = l.sink.flushes + 1 ∧
      Truncated tables layout functionName c d (n + 1) r.listing r.diagnostics := by
  rw [run_of_room (h.diagnostics_complete_iff.mpr hd) ((h.listing_complete_iff hd).mpr hl)]
  exact ⟨rfl, rfl, { h with
    listing_offered := (h.write_listing hd).flush, diagnostics_offered := h.write_diagnostics }⟩

/-- A listing that is cut off is not flushed. -/
theorem run_of_not_fits (hd : (n + 1) * (diagnosis tables).utf8.length ≤ d)
    (hl : ¬ ((listed tables layout functionName).utf8 = [] ∨
      (n + 1) * (listed tables layout functionName).utf8.length ≤ c)) :
    let r := (run tables l diagnostics).value
    r.outcome = .error (.io .full) ∧ r.listing.sink.flushes = l.sink.flushes ∧
      Truncated tables layout functionName c d (n + 1) r.listing r.diagnostics := by
  have hw : (l.write (listed tables l.layout l.functionName)).2 = false := by
    rwa [← Bool.not_eq_true, h.listing_complete_iff hd]
  rw [run_of_full_listing (h.diagnostics_complete_iff.mpr hd) hw]
  exact ⟨rfl, rfl, { h with
    listing_offered := h.write_listing hd, diagnostics_offered := h.write_diagnostics }⟩

theorem run :
    let r := (run tables l diagnostics).value
    Truncated tables layout functionName c d (n + 1) r.listing r.diagnostics := by
  by_cases hd : (n + 1) * (diagnosis tables).utf8.length ≤ d
  · by_cases hl : (listed tables layout functionName).utf8 = [] ∨
        (n + 1) * (listed tables layout functionName).utf8.length ≤ c
    · exact (h.run_of_fits hd hl).2.2
    · exact (h.run_of_not_fits hd hl).2.2
  · exact (h.run_of_lt (Nat.not_le.mp hd)).2.2

end Truncated

/-- A listing of its own for a run. -/
def emitter (layout : Layout) (functionName : Text) (capacity : Option Nat) : Listing :=
  (Listing.into (Sink.ofCapacity capacity) layout).withFunctionName functionName

section Repeated

variable (tables) (layout : Layout) (functionName : Text)

/-- Sinks without limits take everything. -/
theorem run_unlimited :
    let r := (run tables (emitter layout functionName none) (Sink.ofCapacity none)).value
    r.outcome = conclusion tables ∧
      r.listing.sink.contents = (listed tables layout functionName).utf8 ∧
      r.diagnostics.contents = (diagnosis tables).utf8 := by
  have hd : ((Sink.ofCapacity none).write (diagnosis tables)).2 = true := rfl
  have hl : ((emitter layout functionName none).write (listed tables layout functionName)).2 = true := rfl
  rw [run_of_room hd hl]
  refine ⟨rfl, ?_, ?_⟩
  · exact (Sink.contents_write _ _).trans (List.nil_append _)
  · exact (Sink.contents_write _ _).trans (List.nil_append _)

theorem truncated_runs (c d n : Nat) :
    let after := (runs tables n (emitter layout functionName (some c)) (Sink.ofCapacity (some d))).value
    Truncated tables layout functionName c d n after.2.1 after.2.2 := by
  induction n with
  | zero =>
    exact ⟨rfl, rfl, rfl, rfl, Sink.offered_ofCapacity (some c), Sink.offered_ofCapacity (some d), rfl⟩
  | succ n ih =>
    rw [runs_succ]
    exact ih.run

private theorem cut_repeated (c n : Nat) (bytes : List UInt8) :
    Sink.cut (some c) (List.replicate n bytes).flatten =
      (List.replicate n bytes).flatten.take (min c (n * bytes.length)) := by
  rw [Sink.cut, List.take_eq_take_iff]
  simp

end Repeated

/-- Limited sinks cut off what runs write to them and change nothing else: they hold the first bytes of
what unlimited sinks would hold, and a run ends as it would without limits or for lack of room. -/
theorem runs_truncate (tables : Tables) (layout : Layout) (functionName : Text) (c d n : Nat) :
    let free := (run tables (emitter layout functionName none) (Sink.ofCapacity none)).value
    let out := free.listing.sink.contents
    let diag := free.diagnostics.contents
    let after (i : Nat) :=
      (runs tables i (emitter layout functionName (some c)) (Sink.ofCapacity (some d))).value
    let m := (List.range n).countP fun i => (i + 1) * diag.length ≤ d
    (after n).1.length = n ∧
      (after n).2.2.contents = (List.replicate n diag).flatten.take (min d (n * diag.length)) ∧
      (after n).2.2.flushes = 0 ∧
      (after n).2.1.sink.contents = (List.replicate m out).flatten.take (min c (m * out.length)) ∧
      IoFault.full.message = ("failed to write whole buffer" : Text) ∧
      ∀ i < n,
        (d < (i + 1) * diag.length →
          (after n).1[i]? = some (.error (.io .full)) ∧ (after (i + 1)).2.1 = (after i).2.1) ∧
        ((i + 1) * diag.length ≤ d → (out = [] ∨ (i + 1) * out.length ≤ c) →
          (after n).1[i]? = some free.outcome ∧
            (after (i + 1)).2.1.sink.flushes = (after i).2.1.sink.flushes + 1) ∧
        ((i + 1) * diag.length ≤ d → ¬ (out = [] ∨ (i + 1) * out.length ≤ c) →
          (after n).1[i]? = some (.error (.io .full)) ∧
            (after (i + 1)).2.1.sink.flushes = (after i).2.1.sink.flushes) := by
  obtain ⟨hr, ho, hd⟩ := run_unlimited tables layout functionName
  intro free out diag after m
  have ht (i : Nat) := truncated_runs tables layout functionName c d i
  have hm : m = diagnosed d (diagnosis tables).utf8.length n := by
    rw [← hd]
    rfl
  rw [show out = _ from ho, show diag = _ from hd, show free.outcome = _ from hr]
  refine ⟨length_runs n, ?_, (ht n).diagnostics_flushes, ?_, rfl, fun i hi => ?_⟩
  · rw [← cut_repeated, ← (ht n).diagnostics_capacity]
    exact (ht n).diagnostics_offered
  · rw [← cut_repeated, ← (ht n).listing_capacity, hm]
    exact (ht n).listing_offered
  · rw [getElem?_runs hi]
    simp only [after, runs_succ]
    refine ⟨fun h => ?_, fun h hf => ?_, fun h hf => ?_⟩
    · obtain ⟨h₁, h₂, _⟩ := (ht i).run_of_lt h
      exact ⟨congrArg some h₁, h₂⟩
    · obtain ⟨h₁, h₂, _⟩ := (ht i).run_of_fits h hf
      exact ⟨congrArg some h₁, h₂⟩
    · obtain ⟨h₁, h₂, _⟩ := (ht i).run_of_not_fits h hf
      exact ⟨congrArg some h₁, h₂⟩

end FlagState.Generation
