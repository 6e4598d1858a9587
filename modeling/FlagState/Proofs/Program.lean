import FlagState.Program
import FlagState.Proofs.Destination

/-!
An invocation told by its steps: arguments, settings, log directory, output, generation. What comes to opening
the output ends as the generation does (`Opens.runOn`), and nothing else succeeds (`exists_opens`).
-/
namespace FlagState

/-- The files in the end, with the events of the invocation in the log. A directory that has the name of the
log file stays as it is: an invocation with such a log would end before its output is opened, and is not
considered. -/
def Outcome.finalFiles (r : Outcome) (date time : Text) : FileSystem :=
  match r.log with
  | none => r.files
  | some log => r.files.append (Program.logPlace log date) (Program.logText log time).utf8

namespace Outcome

variable {r : Outcome} {date time path : Text} {p : Place}

theorem extends_finalFiles : r.files.Extends (r.finalFiles date time) := by
  unfold finalFiles
  split
  · exact .refl _
  · exact FileSystem.extends_append

theorem entry?_finalFiles (h : ∀ log ∈ r.log, p ≠ Program.logPlace log date) :
    FileSystem.entry? (r.finalFiles date time) p = r.files.entry? p := by
  unfold finalFiles
  split
  · rfl
  · next log hl => exact FileSystem.entry?_append_of_ne (h log hl)

theorem read_finalFiles {content : List UInt8} (hr : r.files.read path = .ok content)
    (h : ∀ log ∈ r.log, r.files.find path ≠ .ok (Program.logPlace log date)) :
    (r.finalFiles date time).read path = .ok content := by
  unfold finalFiles
  split
  · exact hr
  · next log hl => exact FileSystem.read_append hr (h log hl)

end Outcome

namespace Program

variable (tables : Tables) {s : Settings} {o : Options} {fs gs : FileSystem} {path : Text}
  {p : Place} {directory : Option Place}

section Generate

variable (s)

/-- Without a place for its output a generation ends at once. -/
theorem generate_of_error {fault : IoFault} (ho : o.output = some path)
    (hf : fs.fileToWrite path = .error fault) :
    ∃ complaint, (generate tables s o fs).value = ⟨1, [], complaint, fs⟩ := by
  unfold generate
  rw [Noted.value_bind, ho, Destination.ofPath?, Destination.prepare, Noted.value_bind, hf]
  exact ⟨_, rfl⟩

/-- A run with a listing and diagnostics of its own. -/
def unlimitedRun (tables : Tables) (layout : Layout) (functionName : Text) : Run :=
  (Generation.run tables (Generation.emitter layout functionName none) (Sink.ofCapacity none)).value

private theorem value_generate {prepared : Destination.Prepared}
    (hp : ((Destination.ofPath? o.output).prepare fs).value = .ok prepared) :
    let run := unlimitedRun tables (o.layout.getD s.output.layout) s.output.functionName
    ∃ code complaint, (generate tables s o fs).value =
        ⟨code, if prepared.place.isNone then run.listing.sink.contents else [], complaint,
          prepared.close run.listing⟩ ∧
      (code = 0 ↔ ∃ report, run.outcome = .ok report) := by
  unfold generate
  rw [Noted.value_bind, hp]
  dsimp only
  rw [Noted.value_bind, ← Generation.emitter, ← unlimitedRun]
  cases (unlimitedRun tables (o.layout.getD s.output.layout) s.output.functionName).outcome with
  | ok report => exact ⟨0, _, rfl, fun _ => ⟨report, rfl⟩, fun _ => rfl⟩
  | error f => exact ⟨1, _, rfl, by simp⟩

/-- A generation leaves the files as its destination does, and succeeds if the run into it does. -/
theorem generate_deliver :
    let g := (generate tables s o fs).value
    let delivered := ((Destination.ofPath? o.output).deliver tables (o.layout.getD s.output.layout)
      s.output.functionName fs).value
    g.files = delivered.2 ∧ (g.code = 0 ↔ ∃ report, delivered.1 = .ok report) := by
  cases hp : ((Destination.ofPath? o.output).prepare fs).value with
  | error fault =>
    rw [Destination.deliver_of_error hp]
    unfold generate
    rw [Noted.value_bind, hp]
    exact ⟨rfl, nofun, nofun⟩
  | ok prepared =>
    obtain ⟨code, complaint, hg, hc⟩ := value_generate tables s hp
    rw [hg, Destination.deliver_of_ok hp, ← unlimitedRun]
    exact ⟨rfl, hc⟩

theorem generate_standardOutput (ho : o.output = none) :
    let run := unlimitedRun tables (o.layout.getD s.output.layout) s.output.functionName
    ∃ code complaint,
      (generate tables s o fs).value = ⟨code, run.listing.sink.contents, complaint, fs⟩ ∧
        (code = 0 ↔ ∃ report, run.outcome = .ok report) := by
  have hp : ((Destination.ofPath? o.output).prepare fs).value = .ok ⟨fs, none⟩ := by
    rw [ho]
    rfl
  obtain ⟨code, complaint, hg, hc⟩ := value_generate tables s hp
  dsimp only [Destination.Prepared.close] at hg
  rw [if_pos Option.isNone_none] at hg
  exact ⟨code, complaint, hg, hc⟩

theorem generate_file (ho : o.output = some path) (hf : fs.fileToWrite path = .ok p) :
    let run := unlimitedRun tables (o.layout.getD s.output.layout) s.output.functionName
    ∃ code complaint,
      (generate tables s o fs).value = ⟨code, [], complaint, fs.put p (.file run.listing.sink.contents)⟩ ∧
        (code = 0 ↔ ∃ report, run.outcome = .ok report) := by
  have hp : ((Destination.ofPath? o.output).prepare fs).value = .ok ⟨fs.put p (.file []), some p⟩ := by
    rw [ho, Destination.ofPath?, Destination.prepare, Noted.value_bind, hf]
    rfl
  obtain ⟨code, complaint, hg, hc⟩ := value_generate tables s hp
  refine ⟨code, complaint, hg.trans ?_, hc⟩
  dsimp only [Destination.Prepared.close]
  rw [FileSystem.put_put]
  rfl

end Generate

section Logged

/-- The files and the directory of the log when the output is about to be opened, unless that directory
cannot be had. -/
def readyToOpen? (s : Settings) (fs : FileSystem) : Option (FileSystem × Option Place) :=
  match s.logging.directory.map fs.makeDirectories with
  | some (_, none) => none
  | some (fs, some directory) => some (fs, some directory)
  | none => some (fs, none)

theorem generateLogged_of_ready (vars : Variables) (h : readyToOpen? s fs = some (gs, directory)) :
    let r := generateLogged tables vars s o fs
    let g := (generate tables s o gs).value
    r.code = g.code ∧ r.output = g.output ∧ r.files = g.files ∧ r.log.map LogFile.directory = directory := by
  unfold readyToOpen? at h
  unfold generateLogged
  generalize s.logging.directory.map fs.makeDirectories = made at h ⊢
  obtain _ | ⟨made, _ | place⟩ := made
  · cases h
    exact ⟨rfl, rfl, rfl, rfl⟩
  · cases h
  · cases h
    exact ⟨rfl, rfl, rfl, rfl⟩

theorem generateLogged_of_not_ready (vars : Variables) (h : readyToOpen? s fs = none) :
    (generateLogged tables vars s o fs).code = 101 := by
  unfold readyToOpen? at h
  unfold generateLogged
  generalize s.logging.directory.map fs.makeDirectories = made at h ⊢
  obtain _ | ⟨made, _ | place⟩ := made
  · cases h
  · rfl
  · cases h

/-- Only directories were made, and that of the log is where the settings have it. -/
theorem sameFiles_of_ready (h : readyToOpen? s fs = some (gs, directory)) :
    fs.SameFiles gs ∧ ∀ p ∈ directory, ∃ path, s.logging.directory = some path ∧ gs.LeadsTo path p := by
  unfold readyToOpen? at h
  cases hd : s.logging.directory with
  | none =>
    rw [hd] at h
    cases h
    exact ⟨⟨.refl fs, Iff.rfl⟩, nofun⟩
  | some path =>
    rw [hd, Option.map_some] at h
    have hs : fs.SameFiles (fs.makeDirectories path).1 := FileSystem.sameFiles_makeDirectories
    have hl (p : Place) : (fs.makeDirectories path).2 = some p → _ := FileSystem.leadsTo_makeDirectories
    generalize fs.makeDirectories path = made at h hs hl
    obtain ⟨made, _ | place⟩ := made
    · cases h
    · cases h
      exact ⟨hs, fun p hp => ⟨path, rfl, hl p hp⟩⟩

end Logged

/-- An invocation that comes to opening its output, with all that it then has at hand. -/
structure Opens (i : Invocation) (o : Options) (s : Settings) (gs : FileSystem) (directory : Option Place) :
    Prop where
  arguments : Arguments.read i.arguments = .ok (.generate o)
  settings : Settings.load i.files o.settings = .ok s
  ready : readyToOpen? s i.files = some (gs, directory)

section RunOn

variable {i : Invocation}

theorem runOn_of_usageError {e : UsageError} (h : Arguments.read i.arguments = .error e) :
    runOn tables i = ⟨2, [], [.text (usageText e)], i.files, none⟩ := by
  rw [runOn, h]

theorem runOn_of_failure {f : Failure} (h : Arguments.read i.arguments = .ok (.generate o))
    (hs : Settings.load i.files o.settings = .error f) :
    runOn tables i = ⟨1, [], [.text (f.message ++ ['\n'])], i.files, none⟩ := by
  simp only [runOn, h, hs]

theorem Opens.runOn (h : Opens i o s gs directory) :
    let r := Program.runOn tables i
    let g := (generate tables s o gs).value
    r.code = g.code ∧ r.output = g.output ∧ r.files = g.files ∧ r.log.map LogFile.directory = directory := by
  simp only [Program.runOn, h.arguments, h.settings]
  exact generateLogged_of_ready tables _ h.ready

theorem Opens.directory_of_mem_log (h : Opens i o s gs directory) {log : LogFile}
    (hl : log ∈ (Program.runOn tables i).log) : directory = some log.directory := by
  obtain ⟨-, -, -, hd⟩ := h.runOn tables
  rw [← hd, hl, Option.map_some]

/-- Without a request for information only an invocation that comes to opening its output can succeed. -/
theorem exists_opens {tables : Tables} (hc : (runOn tables i).code = 0)
    (hh : Arguments.read i.arguments ≠ .ok .help) (hv : Arguments.read i.arguments ≠ .ok .version) :
    ∃ o s gs directory, Opens i o s gs directory := by
  cases ha : Arguments.read i.arguments with
  | error e =>
    rw [runOn_of_usageError tables ha] at hc
    cases hc
  | ok command =>
    cases command with
    | help => exact absurd ha hh
    | version => exact absurd ha hv
    | generate o =>
      cases hs : Settings.load i.files o.settings with
      | error f =>
        rw [runOn_of_failure tables ha hs] at hc
        cases hc
      | ok s =>
        cases hr : readyToOpen? s i.files with
        | none =>
          simp only [runOn, ha, hs] at hc
          rw [generateLogged_of_not_ready tables _ hr] at hc
          cases hc
        | some ready => exact ⟨o, s, ready.1, ready.2, ha, hs, hr⟩

end RunOn

section Sample

deriving instance DecidableEq for FileSystem

/-- An output file that is there, a directory, a document with settings, one that cannot be used, and
variables. -/
def sampleFiles : FileSystem :=
  ⟨[(["w"], .directory), (["w", "arms.rs"], .file (Text.utf8 "stale")), (["w", "out"], .directory),
    (["w", "mid-to-iso3166.toml"], .file (Text.utf8 ("[logging]\ndirectory = \"logs\"\n[output]\n" ++
      "format = \"function\"\nfunction_name = \"flag\"\n"))),
    (["w", "bad.toml"], .file (Text.utf8 "[output]\nformat = \"xml\"\n")),
    (["w", ".env"], .file (Text.utf8 "RUST_LOG=debug\n"))], ["w"]⟩

/-- The files when the output is about to be opened. -/
def sampleFilesWithLog : FileSystem := sampleFiles.put ["w", "logs"] .directory

def sample (arguments : List Text) : Invocation := ⟨arguments, [], sampleFiles⟩

theorem opens_sample {arguments : List Text} (h : Arguments.read arguments = .ok (.generate o))
    (ho : o.settings = none) :
    Opens (sample arguments) o ⟨⟨"warn", some "logs"⟩, ⟨.function, "flag"⟩⟩ sampleFilesWithLog
      (some ["w", "logs"]) where
  arguments := h
  settings := by
    dsimp only [sample]
    rw [ho]
    decide +kernel
  ready := by
    dsimp only [sample]
    decide +kernel

end Sample
end Program
end FlagState
