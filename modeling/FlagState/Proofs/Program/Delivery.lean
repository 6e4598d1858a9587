import FlagState.Proofs.Generation.PublishedRows
import FlagState.Proofs.Program
import FlagState.Proofs.Settings

/-!
An invocation that succeeds delivers the listing of the published tables, to standard output or to the file
that is asked for, whatever is logged (`run_delivers_published`).
-/
namespace FlagState

/-- The layout that is asked for, else that of the document, else entries. -/
def Options.chosenLayout (o : Options) (fs : FileSystem) : Layout :=
  (o.layout.or ((Settings.document? fs o.settings).bind
    (Settings.outputItem? "format" Settings.layout?))).getD .entries

/-- The function name of the document, else the default. -/
def Options.chosenName (o : Options) (fs : FileSystem) : Text :=
  ((Settings.document? fs o.settings).bind (Settings.outputItem? "function_name" Settings.text?)).getD
    Listing.defaultFunctionName

namespace Program

variable {tables : Tables} {i : Invocation} {o : Options} {s : Settings} {gs : FileSystem} {path : Text}
  {p : Place} {directory : Option Place}

/-- All that the published tables give in a layout with a function name. -/
def publishedListing (layout : Layout) (functionName : Text) : List UInt8 :=
  (unlimitedRun Tables.published layout functionName).listing.sink.contents

namespace Opens

variable (h : Opens i o s gs directory)

include h

theorem layout_eq : o.layout.getD s.output.layout = o.chosenLayout i.files := by
  rw [(Settings.output_of_load h.settings).1, Options.chosenLayout]
  cases o.layout <;> rfl

theorem functionName_eq : s.output.functionName = o.chosenName i.files :=
  (Settings.output_of_load h.settings).2

variable (tables)

theorem runOn_standardOutput (ho : o.output = none) :
    let run := unlimitedRun tables (o.chosenLayout i.files) (o.chosenName i.files)
    let r := Program.runOn tables i
    (r.code = 0 ↔ ∃ report, run.outcome = .ok report) ∧ r.output = run.listing.sink.contents := by
  obtain ⟨hcode, houtput, -⟩ := h.runOn tables
  obtain ⟨code, complaint, hg, hc⟩ := generate_standardOutput tables s ho
  rw [hg] at hcode houtput
  rw [h.layout_eq, h.functionName_eq] at houtput hc
  dsimp only at hcode houtput ⊢
  rw [hcode]
  exact ⟨hc, houtput⟩

theorem runOn_file (ho : o.output = some path) (hf : gs.fileToWrite path = .ok p) :
    let run := unlimitedRun tables (o.chosenLayout i.files) (o.chosenName i.files)
    let r := Program.runOn tables i
    (r.code = 0 ↔ ∃ report, run.outcome = .ok report) ∧ r.output = [] ∧
      r.files = gs.put p (.file run.listing.sink.contents) := by
  obtain ⟨hcode, houtput, hfiles, -⟩ := h.runOn tables
  obtain ⟨code, complaint, hg, hc⟩ := generate_file tables s ho hf
  rw [hg] at hcode houtput hfiles
  rw [h.layout_eq, h.functionName_eq] at hfiles hc
  dsimp only at hcode houtput hfiles ⊢
  rw [hcode]
  exact ⟨hc, houtput, hfiles⟩

end Opens

theorem exists_report_unlimitedRun (layout : Layout) (functionName : Text) :
    ∃ report, (unlimitedRun Tables.published layout functionName).outcome = .ok report := by
  rw [unlimitedRun]
  exact Generation.exists_report_published rfl _

/-- Whatever the environment, an invocation that succeeds delivers what a run over the published tables
gives, with the settings that the arguments and the document make for the output. -/
theorem run_delivers_published (i : Invocation) (date time : Text) (hc : (run i).code = 0)
    (hh : Arguments.read i.arguments ≠ .ok .help) (hv : Arguments.read i.arguments ≠ .ok .version) :
    ∃ o, Arguments.read i.arguments = .ok (.generate o) ∧
      let bytes := publishedListing (o.chosenLayout i.files) (o.chosenName i.files)
      (o.output = none → (run i).output = bytes) ∧
      (∀ path, o.output = some path → (run i).output = [] ∧
        ((∀ log ∈ (run i).log, (run i).files.find path ≠ .ok (logPlace log date)) →
          ((run i).finalFiles date time).read path = .ok bytes)) ∧
      ∀ environment,
        let r := run { i with environment }
        r.code = 0 ∧ r.output = (run i).output ∧ r.files = (run i).files := by
  obtain ⟨o, s, gs, directory, h⟩ := exists_opens hc hh hv
  dsimp only
  refine ⟨o, h.arguments, fun ho => ?_, fun path ho => ?_, fun environment => ?_⟩
  · exact (h.runOn_standardOutput Tables.published ho).2
  · cases hf : gs.fileToWrite path with
    | error fault =>
      obtain ⟨hcode, -⟩ := h.runOn Tables.published
      obtain ⟨complaint, hg⟩ := generate_of_error Tables.published s ho hf
      rw [hg, ← run, hc] at hcode
      cases hcode
    | ok p =>
      obtain ⟨-, houtput, hfiles⟩ := h.runOn_file Tables.published ho hf
      refine ⟨houtput, fun hl => Outcome.read_finalFiles ?_ hl⟩
      rw [run, hfiles, publishedListing]
      exact FileSystem.read_put hf _
  · have hj : Opens { i with environment } o s gs directory := ⟨h.arguments, h.settings, h.ready⟩
    obtain ⟨hcode, houtput, hfiles, -⟩ := h.runOn Tables.published
    obtain ⟨hcode', houtput', hfiles', -⟩ := hj.runOn Tables.published
    rw [run, hcode] at hc
    rw [run, run]
    exact ⟨hcode'.trans hc, houtput'.trans houtput.symm, hfiles'.trans hfiles.symm⟩

theorem run_delivers_published_sample :
    (run (sample ["-o", "arms.rs", "--format", "entries"])).code = 0 ∧
      ((run (sample ["-o", "arms.rs", "--format", "entries"])).finalFiles "2024-05-01" "").read "arms.rs" =
        .ok (publishedListing .entries "flag") := by
  have ha : Arguments.read ["-o", "arms.rs", "--format", "entries"] =
      .ok (.generate ⟨some "arms.rs", some .entries, none⟩) := by decide +kernel
  have hf : sampleFilesWithLog.fileToWrite "arms.rs" = .ok ["w", "arms.rs"] := by decide +kernel
  have h := opens_sample ha rfl
  obtain ⟨hcode, -, hfiles⟩ := h.runOn_file Tables.published rfl hf
  rw [← run] at hcode hfiles
  have hc := hcode.mpr (exists_report_unlimitedRun _ _)
  have hl : ∀ log ∈ (run (sample ["-o", "arms.rs", "--format", "entries"])).log,
      (run (sample ["-o", "arms.rs", "--format", "entries"])).files.find "arms.rs" ≠
        .ok (logPlace log "2024-05-01") := by
    intro log hl
    rw [run] at hl
    have hdir := h.directory_of_mem_log _ hl
    rw [Option.some.injEq] at hdir
    rw [hfiles, FileSystem.find_put hf, logPlace, ← hdir]
    decide +kernel
  have hs : (sample ["-o", "arms.rs", "--format", "entries"]).files = sampleFiles := rfl
  have hx : Options.chosenLayout ⟨some "arms.rs", some .entries, none⟩ sampleFiles = .entries ∧
      Options.chosenName ⟨some "arms.rs", some .entries, none⟩ sampleFiles = "flag" := by decide +kernel
  obtain ⟨o, ho, -, hd, -⟩ := run_delivers_published (sample ["-o", "arms.rs", "--format", "entries"])
    "2024-05-01" "" hc (ha ▸ nofun) (ha ▸ nofun)
  obtain ⟨⟩ := ho.symm.trans ha
  obtain ⟨-, hread⟩ := hd _ rfl
  rw [hs, hx.1, hx.2] at hread
  exact ⟨hc, hread hl⟩

end Program
end FlagState
