import FlagState.Destination
import FlagState.Proofs.BufferedFile
import FlagState.Proofs.FileSystem
import FlagState.Proofs.Generation.Truncation

/-!
What a run makes of its destination. It takes steps of which the last flushes (`listing_run`), so that a file
holds what a listing in memory would, whenever the buffer in front of it passes bytes on (`deliver_file`).
-/
namespace FlagState

theorem Text.utf8_flatten (ts : List Text) : utf8 ts.flatten = (ts.map utf8).flatten := by
  induction ts with
  | nil => rfl
  | cons t ts ih => rw [List.flatten_cons, utf8_append, ih, List.map_cons, List.flatten_cons]

namespace Generation
open Listing (Step)

/-- A step for each arm up to an unknown country, which flushes the listing; the footer if there is none. -/
def steps : List Answer → List Step
  | [] => [.footer]
  | .error _ :: _ => [.flush]
  | .ok arm :: answers => .arm arm :: steps answers

/-- What a run does to its listing. -/
def script (tables : Tables) : List Step := .header :: steps (answersOf tables)

section Script

variable {l : Listing} (hl : l.sink.capacity = none)

include hl

theorem after_steps (answers : List Answer) :
    l.after (steps answers) = (l.write (body l.layout answers)).1.flush := by
  induction answers generalizing l with
  | nil =>
    have hw : l.write l.layout.footer = ((l.write l.layout.footer).1, true) :=
      Prod.ext rfl (Sink.complete_write_of_unlimited hl _)
    rw [steps, body, Listing.after_cons, Listing.step, Listing.writeFooter, hw]
    rfl
  | cons answer answers ih =>
    cases answer with
    | error a =>
      rw [steps, body, Listing.write_nil]
      rfl
    | ok arm =>
      have hw : (l.write (arm.text ++ ['\n'])).2 = true := Sink.complete_write_of_unlimited hl _
      rw [steps, body, Listing.after_cons, ih ((Listing.capacity_step l _).trans hl),
        Listing.write_append_of_room l hw]
      rfl

theorem listing_run (tables : Tables) {diagnostics : Sink} (hd : diagnostics.capacity = none) :
    (run tables l diagnostics).value.listing = l.after (script tables) := by
  have hh : (l.write (l.layout.header l.functionName)).2 = true := Sink.complete_write_of_unlimited hl _
  rw [run_of_room (Sink.complete_write_of_unlimited hd _) (Sink.complete_write_of_unlimited hl _), script,
    Listing.after_cons, after_steps ((Listing.capacity_step l _).trans hl), listed_eq_append,
    Listing.write_append_of_room l hh]
  rfl

end Script

/-- The last step flushes, whether all countries are known or not. -/
theorem exists_steps_eq_append (answers : List Answer) :
    ∃ ss s, steps answers = ss ++ [s] ∧ s.flushes = true := by
  induction answers with
  | nil => exact ⟨[], .footer, rfl, rfl⟩
  | cons answer answers ih =>
    cases answer with
    | error a => exact ⟨[], .flush, rfl, rfl⟩
    | ok arm =>
      obtain ⟨ss, s, hs, hf⟩ := ih
      exact ⟨.arm arm :: ss, s, congrArg (List.cons (Step.arm arm)) hs, hf⟩

theorem exists_script_eq_append (tables : Tables) :
    ∃ ss s, script tables = ss ++ [s] ∧ s.flushes = true := by
  obtain ⟨ss, s, hs, hf⟩ := exists_steps_eq_append (answersOf tables)
  refine ⟨.header :: ss, s, ?_, hf⟩
  rw [script, hs, List.cons_append]

variable (layout : Layout) (functionName : Text)

theorem texts_steps (answers : List Answer) :
    (Step.texts layout functionName (steps answers)).flatten = body layout answers := by
  induction answers with
  | nil => exact List.append_nil _
  | cons answer answers ih =>
    cases answer with
    | error a => rfl
    | ok arm => exact congrArg (arm.text ++ ['\n'] ++ ·) ih

theorem texts_script (tables : Tables) :
    (Step.texts layout functionName (script tables)).flatten = listed tables layout functionName := by
  rw [script, Step.texts, List.flatten_cons, texts_steps, listed_eq_append]
  rfl

/-- A file behind a buffer holds what a run lists as soon as the run ends, and when the buffer is gone. -/
theorem content_steps_script (tables : Tables) (old : List UInt8) (pace : Nat → Nat) :
    let f := (BufferedFile.onto old).steps layout functionName pace (script tables)
    let bytes := (listed tables layout functionName).utf8
    f.content = bytes ++ old.drop bytes.length ∧ f.flush.content = bytes ++ old.drop bytes.length := by
  intro f bytes
  have ho : f.Overlays old _ :=
    (BufferedFile.overlays_onto old).steps layout functionName pace (script tables)
  rw [List.nil_append, ← Text.utf8_flatten, texts_script] at ho
  have hn : f.buffered = [] := by
    obtain ⟨ss, s, hs, hf⟩ := exists_script_eq_append tables
    have h := (BufferedFile.onto old).buffered_steps layout functionName pace ss hf
    rwa [← hs] at h
  exact ⟨ho.content_of_buffered_eq_nil hn, ho.flush.content_of_buffered_eq_nil f.buffered_flush⟩

end Generation

namespace Destination

/-- An opened file is empty. -/
theorem prepare_file_eq_ok {fs : FileSystem} {path : Text} {prepared : Prepared}
    (h : ((file path).prepare fs).value = .ok prepared) :
    ∃ p, fs.fileToWrite path = .ok p ∧ prepared = ⟨fs.put p (.file []), some p⟩ := by
  have hp : ((file path).prepare fs).value =
      (fs.fileToWrite path).map fun p => ⟨fs.put p (.file []), some p⟩ := rfl
  rw [hp] at h
  cases hf : fs.fileToWrite path with
  | error fault =>
    rw [hf] at h
    cases h
  | ok p =>
    rw [hf] at h
    exact ⟨p, rfl, (Except.ok.inj h).symm⟩

theorem deliver_of_error {d : Destination} {fs : FileSystem} {fault : IoFault}
    (h : (d.prepare fs).value = .error fault) (tables : Tables) (layout : Layout) (functionName : Text) :
    (d.deliver tables layout functionName fs).value = (.error (.io fault), fs) := by
  rw [deliver, Noted.value_bind, h]
  rfl

theorem deliver_of_ok {d : Destination} {fs : FileSystem} {prepared : Prepared}
    (h : (d.prepare fs).value = .ok prepared) (tables : Tables) (layout : Layout) (functionName : Text) :
    let run := (Generation.run tables (Generation.emitter layout functionName none) (Sink.ofCapacity none)).value
    (d.deliver tables layout functionName fs).value = (run.outcome, prepared.close run.listing) := by
  unfold deliver
  dsimp only
  rw [← Generation.emitter]
  generalize Generation.run tables _ _ = run
  rw [Noted.value_bind, h]
  rfl

/-- A file that can be opened ends up with what the same run lists in memory and nothing of its old content, the
run ends in the same way, and no other file changes. So it does if the steps of the run go to the opened file
through a buffer, at whatever pace: all bytes are there when the run ends, before the buffer is dropped. A file
that cannot be opened ends the run, and all files stay as they are. -/
theorem deliver_file (tables : Tables) (layout : Layout) (functionName : Text) (fs : FileSystem) (path : Text) :
    let fresh := Generation.emitter layout functionName none
    let memory := (Generation.run tables fresh (Sink.ofCapacity none)).value
    let bytes := memory.listing.sink.contents
    let delivered := ((file path).deliver tables layout functionName fs).value
    match ((file path).prepare fs).value with
    | .error fault => delivered = (.error (.io fault), fs)
    | .ok prepared =>
      delivered.1 = memory.outcome ∧ delivered.2.read path = .ok bytes ∧
      delivered.2.workingDirectory = fs.workingDirectory ∧
      ∃ p, prepared.place = some p ∧ (∀ q, q ≠ p → FileSystem.entry? delivered.2 q = fs.entry? q) ∧
        memory.listing = fresh.after (Generation.script tables) ∧
        prepared.files.entry? p = some (.file []) ∧ ∀ pace : Nat → Nat,
          let f := (BufferedFile.onto []).steps layout functionName pace (Generation.script tables)
          f.content = bytes ∧ FileSystem.entry? delivered.2 p = some (.file f.flush.content) := by
  have hbytes := (Generation.run_unlimited tables layout functionName).2.1
  have hlisting : (Generation.run tables (Generation.emitter layout functionName none)
      (Sink.ofCapacity none)).value.listing = _ := Generation.listing_run rfl tables rfl
  dsimp only
  cases hp : ((file path).prepare fs).value with
  | error fault => exact deliver_of_error hp tables layout functionName
  | ok prepared =>
    rw [deliver_of_ok hp]
    generalize (Generation.run tables _ _).value = memory at hbytes hlisting ⊢
    obtain ⟨p, hf, rfl⟩ := prepare_file_eq_ok hp
    have hclose : Prepared.close ⟨fs.put p (.file []), some p⟩ memory.listing =
        fs.put p (.file memory.listing.sink.contents) := FileSystem.put_put
    have hfile (content : List UInt8) :
        FileSystem.entry? (fs.put p (.file content)) p = some (.file content) :=
      FileSystem.entry?_put_self (FileSystem.ne_nil_of_fileToWrite hf)
    rw [hclose]
    refine ⟨rfl, FileSystem.read_put hf _, rfl, p, rfl, fun q hq => FileSystem.entry?_put_of_ne hq,
      hlisting, hfile [], fun pace => ?_⟩
    have hc := Generation.content_steps_script layout functionName tables [] pace
    simp only [List.drop_nil, List.append_nil, ← hbytes] at hc
    rw [hc.2]
    exact ⟨hc.1, hfile _⟩

end Destination
end FlagState
