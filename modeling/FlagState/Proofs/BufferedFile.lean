import FlagState.Proofs.Listing

/-!
A file behind a buffer, which may pass on its bytes early or late but keeps their order. What was written
stands in the file or waits in the buffer, in front of what is left of an old content (`Overlays.steps`);
behind a flush none of it waits (`buffered_steps`).
-/
namespace FlagState
open Listing (Step)

structure BufferedFile where
  content : List UInt8
  /-- Where in the file the next byte goes. -/
  position : Nat
  buffered : List UInt8

namespace BufferedFile

/-- A file opened at its start. -/
def onto (content : List UInt8) : BufferedFile := ⟨content, 0, []⟩

/-- Up to `n` bytes leave the buffer and take the place of as many in the file. -/
def passOn (f : BufferedFile) (n : Nat) : BufferedFile :=
  let bytes := f.buffered.take n
  ⟨f.content.take f.position ++ bytes ++ f.content.drop (f.position + bytes.length),
    f.position + bytes.length, f.buffered.drop n⟩

def flush (f : BufferedFile) : BufferedFile := f.passOn f.buffered.length

def write (f : BufferedFile) (bytes : List UInt8) : BufferedFile :=
  { f with buffered := f.buffered ++ bytes }

/-- A step of a listing, in which the buffer passes on `n` bytes before any flush. -/
def step (f : BufferedFile) (layout : Layout) (functionName : Text) (n : Nat) (s : Step) : BufferedFile :=
  let written := (f.write (s.text layout functionName).utf8).passOn n
  if s.flushes then written.flush else written

/-- The steps of a listing; `pace` tells how many bytes the buffer passes on in each. -/
def steps (f : BufferedFile) (layout : Layout) (functionName : Text) (pace : Nat → Nat) :
    List Step → BufferedFile
  | [] => f
  | s :: ss =>
    steps (f.step layout functionName (pace 0) s) layout (s.rename functionName) (fun i => pace (i + 1)) ss

/-- Some of `bytes` were passed on and the rest waits; behind them stands what is left of `old`. -/
def Overlays (f : BufferedFile) (old bytes : List UInt8) : Prop :=
  ∃ passed, passed ++ f.buffered = bytes ∧ f.position = passed.length ∧
    f.content = passed ++ old.drop passed.length

theorem overlays_onto (old : List UInt8) : (onto old).Overlays old [] := ⟨[], rfl, rfl, rfl⟩

theorem buffered_flush (f : BufferedFile) : f.flush.buffered = [] := List.drop_length

section Overlays

variable {f : BufferedFile} {old bytes : List UInt8} (h : f.Overlays old bytes)

include h

theorem Overlays.write (more : List UInt8) : (f.write more).Overlays old (bytes ++ more) := by
  obtain ⟨passed, hb, hp, hc⟩ := h
  refine ⟨passed, ?_, hp, hc⟩
  rw [← hb, List.append_assoc]
  rfl

theorem Overlays.passOn (n : Nat) : (f.passOn n).Overlays old bytes := by
  obtain ⟨passed, hb, hp, hc⟩ := h
  refine ⟨passed ++ f.buffered.take n, ?_, ?_, ?_⟩
  · rw [List.append_assoc, ← hb]
    exact congrArg (passed ++ ·) (List.take_append_drop n f.buffered)
  · rw [List.length_append, ← hp]
    rfl
  · unfold BufferedFile.passOn
    dsimp only
    rw [hc, hp, List.take_left, List.drop_length_add_append, List.drop_drop, List.length_append]

theorem Overlays.flush : f.flush.Overlays old bytes := h.passOn _

/-- Once nothing waits the file holds all bytes, and behind them what is left of the old content. -/
theorem Overlays.content_of_buffered_eq_nil (hn : f.buffered = []) :
    f.content = bytes ++ old.drop bytes.length := by
  obtain ⟨passed, hb, -, hc⟩ := h
  rw [hn, List.append_nil] at hb
  rw [hc, hb]

variable (layout : Layout) (functionName : Text)

theorem Overlays.step (n : Nat) (s : Step) :
    (f.step layout functionName n s).Overlays old (bytes ++ (s.text layout functionName).utf8) := by
  unfold BufferedFile.step
  split
  · exact ((h.write _).passOn n).flush
  · exact (h.write _).passOn n

/-- At every pace of the buffer nothing is lost, doubled or moved. -/
theorem Overlays.steps (pace : Nat → Nat) (ss : List Step) :
    (f.steps layout functionName pace ss).Overlays old
      (bytes ++ ((Step.texts layout functionName ss).map Text.utf8).flatten) := by
  induction ss generalizing f bytes functionName pace with
  | nil => rwa [Step.texts, List.map_nil, List.flatten_nil, List.append_nil]
  | cons s ss ih =>
    have hi := ih (h.step layout functionName (pace 0) s) (s.rename functionName) fun i => pace (i + 1)
    rwa [List.append_assoc] at hi

end Overlays

variable (f : BufferedFile) (layout : Layout) (functionName : Text)

theorem buffered_step (n : Nat) {s : Step} (h : s.flushes = true) :
    (f.step layout functionName n s).buffered = [] := by
  unfold step
  rw [if_pos h, buffered_flush]

/-- Nothing waits behind a step that flushes. -/
theorem buffered_steps (pace : Nat → Nat) (ss : List Step) {s : Step} (h : s.flushes = true) :
    (f.steps layout functionName pace (ss ++ [s])).buffered = [] := by
  induction ss generalizing f functionName pace with
  | nil => exact f.buffered_step layout functionName (pace 0) h
  | cons s' ss ih => exact ih ..

end BufferedFile
end FlagState
