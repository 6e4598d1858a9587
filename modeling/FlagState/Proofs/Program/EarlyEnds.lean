import FlagState.Proofs.Program

/-!
Invocations that end before anything is generated leave all files as they are, but for the log
(`run_ends_early`).
-/
namespace FlagState.Program

/-- After a usage error or a failure to load the settings nothing has changed. If the output cannot be
opened, no file has but the log, which is in the configured directory. -/
theorem run_ends_early (i : Invocation) (date time : Text) :
    let r := run i
    (∀ e, Arguments.read i.arguments = .error e → r.output = [] ∧ r.finalFiles date time = i.files) ∧
    (∀ o f, Arguments.read i.arguments = .ok (.generate o) → Settings.load i.files o.settings = .error f →
      r.output = [] ∧ r.finalFiles date time = i.files) ∧
    ∀ o s gs directory path fault, Opens i o s gs directory → o.output = some path →
      gs.fileToWrite path = .error fault →
        r.code = 1 ∧ r.output = [] ∧
        (∀ log ∈ r.log, ∃ name, s.logging.directory = some name ∧
          (r.finalFiles date time).LeadsTo name log.directory) ∧
        ∀ p content, (∀ log ∈ r.log, p ≠ logPlace log date) →
          (FileSystem.entry? (r.finalFiles date time) p = some (.file content) ↔
            i.files.entry? p = some (.file content)) := by
  dsimp only
  refine ⟨fun e h => ?_, fun o f h hs => ?_, fun o s gs directory path fault h ho hf => ?_⟩
  · rw [run, runOn_of_usageError _ h]
    exact ⟨rfl, rfl⟩
  · rw [run, runOn_of_failure _ h hs]
    exact ⟨rfl, rfl⟩
  · obtain ⟨hcode, houtput, hfiles, -⟩ := h.runOn Tables.published
    obtain ⟨complaint, hg⟩ := generate_of_error Tables.published s ho hf
    obtain ⟨hsame, hplace⟩ := sameFiles_of_ready h.ready
    rw [hg] at hcode houtput hfiles
    rw [run]
    refine ⟨hcode, houtput, fun log hl => ?_, fun p content hp => ?_⟩
    · obtain ⟨name, hn, hd⟩ := hplace log.directory (h.directory_of_mem_log _ hl)
      refine ⟨name, hn, Outcome.extends_finalFiles.leadsTo ?_⟩
      rwa [hfiles]
    · rw [Outcome.entry?_finalFiles hp, hfiles, hsame.file_iff]

theorem run_ends_early_sample :
    (run (sample ["-o", "arms.rs", "--format", "xml"])).finalFiles "2024-05-01" "" = sampleFiles ∧
      (run (sample ["-o", "arms.rs", "--config", "bad.toml"])).finalFiles "2024-05-01" "" = sampleFiles ∧
      (run (sample ["-o", "out"])).code = 1 ∧
      FileSystem.entry? ((run (sample ["-o", "out"])).finalFiles "2024-05-01" "") ["w", "arms.rs"] =
        some (.file (Text.utf8 "stale")) := by
  have hu : Arguments.read ["-o", "arms.rs", "--format", "xml"] = .error (.badValue "--format" "xml") := by
    decide +kernel
  have hb : Arguments.read ["-o", "arms.rs", "--config", "bad.toml"] =
      .ok (.generate ⟨some "arms.rs", none, some "bad.toml"⟩) := by decide +kernel
  have hs : Settings.load sampleFiles (some "bad.toml") = .error .unusableSettings := by decide +kernel
  have hd : Arguments.read ["-o", "out"] = .ok (.generate ⟨some "out", none, none⟩) := by decide +kernel
  have ho := opens_sample hd rfl
  have hf : sampleFilesWithLog.fileToWrite "out" = .error .isDirectory := by decide +kernel
  obtain ⟨husage, -⟩ := run_ends_early (sample ["-o", "arms.rs", "--format", "xml"]) "2024-05-01" ""
  obtain ⟨-, hsettings, -⟩ :=
    run_ends_early (sample ["-o", "arms.rs", "--config", "bad.toml"]) "2024-05-01" ""
  obtain ⟨-, -, hopen⟩ := run_ends_early (sample ["-o", "out"]) "2024-05-01" ""
  obtain ⟨hcode, -, -, hfile⟩ := hopen _ _ _ _ _ _ ho rfl hf
  refine ⟨(husage _ hu).2, (hsettings _ _ hb hs).2, hcode, (hfile _ _ fun log hl => ?_).mpr (by decide +kernel)⟩
  rw [run] at hl
  have hdir := ho.directory_of_mem_log _ hl
  rw [Option.some.injEq] at hdir
  rw [logPlace, ← hdir]
  decide +kernel

end FlagState.Program
