import FlagState.Text

/-!
Where written bytes end up. A sink of limited capacity stores as many of the first bytes as have room and
never more than its capacity; what it holds only grows (`contents_write`).
-/
namespace FlagState

structure Sink where
  /-- How many bytes the sink takes in all; no limit if missing. -/
  capacity : Option Nat
  stored : Array UInt8
  flushes : Nat
  within : ∀ n ∈ capacity, stored.size ≤ n

namespace Sink

def ofCapacity (capacity : Option Nat) : Sink := ⟨capacity, #[], 0, fun _ _ => Nat.zero_le _⟩

def contents (s : Sink) : List UInt8 := s.stored.toList

/-- As many of the first bytes as have room. -/
def fitting (s : Sink) (bytes : List UInt8) : List UInt8 :=
  match s.capacity with
  | none => bytes
  | some n => bytes.take (n - s.stored.size)

/-- Whether all the bytes have room. -/
def hasRoom (s : Sink) (bytes : List UInt8) : Bool :=
  match s.capacity with
  | none => true
  | some n => s.stored.size + bytes.length ≤ n

private theorem within_append (s : Sink) (bytes : List UInt8) :
    ∀ n ∈ s.capacity, (s.stored ++ s.fitting bytes).size ≤ n := by
  intro n hn
  have h := s.within n hn
  rw [Option.mem_def] at hn
  simp only [fitting, hn, ← Array.length_toList, Array.toList_appendList, List.length_append,
    List.length_take] at h ⊢
  omega

/-- Stores what fits, and tells whether that was all. -/
def write (s : Sink) (t : Text) : Sink × Bool :=
  let bytes := t.utf8
  (⟨s.capacity, s.stored ++ s.fitting bytes, s.flushes, s.within_append bytes⟩, s.hasRoom bytes)

/-- Flushing never fails. -/
def flush (s : Sink) : Sink := { s with flushes := s.flushes + 1 }

/-- Writes text after text up to the first that does not fit as a whole. -/
def writeAll (s : Sink) : List Text → Sink × Bool
  | [] => (s, true)
  | t :: ts =>
    match s.write t with
    | (s, true) => writeAll s ts
    | (s, false) => (s, false)

variable (s : Sink) (t : Text)

theorem contents_write : (s.write t).1.contents = s.contents ++ s.fitting t.utf8 := by
  simp [write, contents]

theorem capacity_write : (s.write t).1.capacity = s.capacity := rfl

theorem flushes_write : (s.write t).1.flushes = s.flushes := rfl

theorem length_contents_le {n : Nat} (h : s.capacity = some n) : s.contents.length ≤ n := by
  simpa [contents] using s.within n h

theorem fitting_of_hasRoom {bytes : List UInt8} (h : s.hasRoom bytes = true) :
    s.fitting bytes = bytes := by
  cases hc : s.capacity with
  | none => simp [fitting, hc]
  | some n =>
    have hn : s.stored.size + bytes.length ≤ n := by simpa [hasRoom, hc] using h
    simp only [fitting, hc]
    exact List.take_of_length_le (by omega)

theorem hasRoom_nil : s.hasRoom [] = true := by
  cases hc : s.capacity with
  | none => simp [hasRoom, hc]
  | some n => simpa [hasRoom, hc] using s.within n hc

end Sink
end FlagState
