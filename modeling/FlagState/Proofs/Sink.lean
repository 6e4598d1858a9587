import FlagState.Sink

/-!
Writing a text in pieces is writing it at once (`writeAll_eq_write`), and a sink of limited capacity
holds the first bytes of all that was ever written to it, failed writes included (`Offered`).
-/
namespace FlagState.Sink

@[ext] theorem ext {s u : Sink} (hc : s.capacity = u.capacity) (hb : s.contents = u.contents)
    (hf : s.flushes = u.flushes) : s = u := by
  obtain ⟨_, ⟨_⟩, _, _⟩ := s
  obtain ⟨_, ⟨_⟩, _, _⟩ := u
  simp_all [contents]

@[simp] theorem contents_flush (s : Sink) : s.flush.contents = s.contents := rfl

@[simp] theorem capacity_flush (s : Sink) : s.flush.capacity = s.capacity := rfl

@[simp] theorem flushes_flush (s : Sink) : s.flush.flushes = s.flushes + 1 := rfl

private theorem size_stored (s : Sink) : s.stored.size = s.contents.length :=
  (Array.length_toList ..).symm

section Pieces

variable (s : Sink)

theorem write_nil : s.write [] = (s, true) := by
  refine Prod.ext ?_ s.hasRoom_nil
  refine Sink.ext rfl ?_ rfl
  rw [contents_write]
  cases hc : s.capacity with
  | none => simp [fitting, hc, Text.utf8]
  | some n => simp [fitting, hc, Text.utf8]

theorem isPrefix_fitting (bytes : List UInt8) : s.fitting bytes <+: bytes := by
  cases hc : s.capacity with
  | none => simp only [fitting, hc, List.prefix_refl]
  | some n => simp only [fitting, hc, List.take_prefix]

private theorem length_fitting (s : Sink) {bytes : List UInt8} (h : s.hasRoom bytes = true) :
    (s.stored ++ s.fitting bytes).size = s.stored.size + bytes.length := by
  rw [s.fitting_of_hasRoom h, ← Array.length_toList, Array.toList_appendList, List.length_append,
    Array.length_toList]

private theorem hasRoom_of_append {a b : List UInt8} (h : s.hasRoom (a ++ b) = true) :
    s.hasRoom a = true := by
  cases hc : s.capacity with
  | none => simp [hasRoom, hc]
  | some n =>
    simp only [hasRoom, hc, List.length_append, decide_eq_true_eq] at h ⊢
    omega

private theorem fitting_append_of_full {a : List UInt8} (h : s.hasRoom a = false) (b : List UInt8) :
    s.fitting (a ++ b) = s.fitting a := by
  cases hc : s.capacity with
  | none => simp [hasRoom, hc] at h
  | some n =>
    simp only [hasRoom, hc, decide_eq_false_iff_not] at h
    simp only [fitting, hc]
    exact List.take_append_of_le_length (by omega)

theorem write_append_of_full {t : Text} (h : (s.write t).2 = false) (u : Text) :
    s.write (t ++ u) = s.write t := by
  have hb : s.hasRoom (t ++ u).utf8 = false := by
    rw [← Bool.not_eq_true]
    intro hr
    rw [Text.utf8_append] at hr
    exact absurd (s.hasRoom_of_append hr) (by simpa [write] using h)
  refine Prod.ext (Sink.ext rfl ?_ rfl) (hb.trans h.symm)
  rw [contents_write, contents_write, Text.utf8_append, s.fitting_append_of_full h]

theorem write_append_of_room {t : Text} (h : (s.write t).2 = true) (u : Text) :
    s.write (t ++ u) = (s.write t).1.write u := by
  have hr : s.hasRoom t.utf8 = true := h
  have hl := s.length_fitting hr
  refine Prod.ext (Sink.ext rfl ?_ rfl) ?_
  · rw [contents_write, contents_write, contents_write, List.append_assoc, Text.utf8_append,
      s.fitting_of_hasRoom hr]
    congr 1
    cases hc : s.capacity with
    | none => simp [fitting, write, hc]
    | some n =>
      have hn : s.stored.size + t.utf8.length ≤ n := by simpa [hasRoom, hc] using hr
      simp only [fitting, write, hc] at hl ⊢
      rw [hl, List.take_append, List.take_of_length_le (by omega), Nat.sub_sub]
  · cases hc : s.capacity with
    | none => simp [write, hasRoom, hc]
    | some n =>
      simp only [write, hasRoom, hc, hl, Text.utf8_append, List.length_append, Nat.add_assoc]

theorem writeAll_eq_write (ts : List Text) : s.writeAll ts = s.write ts.flatten := by
  induction ts generalizing s with
  | nil => exact s.write_nil.symm
  | cons t ts ih =>
    rw [writeAll, List.flatten_cons]
    split
    · next u hw =>
      rw [s.write_append_of_room (congrArg Prod.snd hw), ih, hw]
    · next u hw =>
      rw [s.write_append_of_full (congrArg Prod.snd hw), hw]

end Pieces

section Unlimited

variable {s : Sink} (h : s.capacity = none) (t : Text)

include h

theorem complete_write_of_unlimited : (s.write t).2 = true := by
  simp only [write, hasRoom, h]

theorem contents_write_of_unlimited : (s.write t).1.contents = s.contents ++ t.utf8 := by
  rw [contents_write, s.fitting_of_hasRoom (complete_write_of_unlimited h t)]

end Unlimited

/-- The first bytes, as many as a capacity allows. -/
def cut : Option Nat → List UInt8 → List UInt8
  | none, bytes => bytes
  | some n, bytes => bytes.take n

/-- All in all `bytes` were written to the sink, of which it kept what had room. -/
def Offered (s : Sink) (bytes : List UInt8) : Prop := s.contents = cut s.capacity bytes

theorem offered_ofCapacity (capacity : Option Nat) : (ofCapacity capacity).Offered [] := by
  cases capacity <;> simp [Offered, ofCapacity, contents, cut]

namespace Offered

variable {s : Sink} {bytes : List UInt8} (h : s.Offered bytes)

include h

theorem write (t : Text) : (s.write t).1.Offered (bytes ++ t.utf8) := by
  unfold Offered at h ⊢
  rw [contents_write, capacity_write, h]
  have hs := s.size_stored
  cases hc : s.capacity with
  | none => simp [cut, fitting, hc]
  | some n =>
    rw [h, hc] at hs
    simp only [cut, fitting, hc, List.length_take] at hs ⊢
    rw [List.take_append, hs]
    congr 2
    omega

theorem flush : s.flush.Offered bytes := h

/-- Once the sink is full only the empty text has room. -/
theorem write_complete_iff (t : Text) :
    (s.write t).2 = true ↔ t.utf8 = [] ∨ ∀ n ∈ s.capacity, (bytes ++ t.utf8).length ≤ n := by
  have hs := s.size_stored
  cases hc : s.capacity with
  | none => simp [Sink.write, hasRoom, hc]
  | some n =>
    rw [h, hc] at hs
    simp only [cut, List.length_take] at hs
    have hr : (s.write t).2 = true ↔ s.stored.size + t.utf8.length ≤ n := by
      simp [Sink.write, hasRoom, hc]
    rw [hr, hs, ← List.length_eq_zero_iff]
    simp only [Option.mem_some_iff, forall_eq', List.length_append]
    omega

end Offered
end FlagState.Sink
