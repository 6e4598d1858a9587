import FlagState.Proofs.FileSystem
import FlagState.Proofs.Settings.Fields

/-!
What is loaded. A path that is asked for is the only one that counts; without one, the default file stands
in for it if it is a file. Of the text that is read each field is filled on its own
(`loading_fills_each_setting`).
-/
namespace FlagState.Settings

open Toml (Items)

variable {fs gs : FileSystem} {path : Text} {p : Place} {t : Text} {document : Items}

private theorem load_congr (h : gs.readText path = fs.readText path) :
    load gs (some path) = load fs (some path) := by
  rw [load, load, ofFile, ofFile, h]

/-- The place of the default file. -/
def defaultPlace (fs : FileSystem) : Place := fs.workingDirectory ++ [defaultFile]

private theorem load_beside (h : fs.AgreeBeside (defaultPlace fs) gs)
    (hn : defaultFile ∉ FileSystem.names path) : load gs (some path) = load fs (some path) := by
  refine load_congr (h.readText_eq hn fun hp => ?_)
  have hlength := hp.length_le
  rw [FileSystem.origin, List.length_append, List.length_singleton] at hlength
  split at hlength
  · cases hlength
  · omega

theorem load_eq_unreadable_iff {path' : Text} {fault : IoFault} :
    load fs (some path) = .error (.unreadableSettings path' fault) ↔
      path' = path ∧ fs.Unreadable path fault := by
  rw [← FileSystem.readText_eq_error, load, ofFile]
  constructor
  · intro h
    split at h
    · next fault' hr =>
      obtain ⟨rfl, rfl⟩ := Failure.unreadableSettings.inj (Except.error.inj h)
      exact ⟨rfl, hr⟩
    · split at h <;> cases h
  · rintro ⟨rfl, hr⟩
    rw [hr]

private theorem load_of_file (hp : fs.find path = .ok p) (he : fs.entry? p = some (.file t.utf8)) :
    load fs (some path) = match (Toml.Document.ofText? t).bind ofItems? with
      | some s => .ok s
      | none => .error .unusableSettings := by
  rw [load, ofFile, FileSystem.readText_eq_ok.mpr ⟨p, hp, he⟩]
  rfl

theorem load_of_no_document (hp : fs.find path = .ok p) (he : fs.entry? p = some (.file t.utf8))
    (ht : Toml.Document.ofText? t = none) : load fs (some path) = .error .unusableSettings := by
  rw [load_of_file hp he, ht, Option.bind_none]

theorem load_of_document (hp : fs.find path = .ok p) (he : fs.entry? p = some (.file t.utf8))
    (ht : Toml.Document.ofText? t = some document) :
    (∀ s : Settings, load fs (some path) = .ok s ↔ s.FilledFrom document) ∧
      (load fs (some path) = .error .unusableSettings ↔ Spoilt document) := by
  rw [load_of_file hp he, ht, Option.bind_some, ← ofItems?_eq_none_iff]
  simp only [← ofItems?_eq_some_iff]
  cases ofItems? document with
  | none => exact ⟨fun s => ⟨nofun, nofun⟩, fun _ => rfl, fun _ => rfl⟩
  | some s' =>
    refine ⟨fun s => ⟨fun h => congrArg some (Except.ok.inj h), fun h => ?_⟩, nofun, nofun⟩
    exact congrArg Except.ok (Option.some.inj h)

/-- Asked for a path, loading reads the file there and no other, and says so if it cannot. Without a path it
reads the default file, if it is one. From a document each field takes what is given for it or else its
default, whatever is given for other fields or under other names; one thing of the wrong kind spoils all. -/
theorem loading_fills_each_setting (fs : FileSystem) (path : Text) :
    (∀ gs : FileSystem, gs.find path = fs.find path →
        (∀ p, fs.find path = .ok p → gs.entry? p = fs.entry? p) →
      load gs (some path) = load fs (some path)) ∧
    (∀ gs : FileSystem, fs.AgreeBeside (defaultPlace fs) gs → defaultFile ∉ FileSystem.names path →
      load gs (some path) = load fs (some path)) ∧
    (∀ path' fault,
      (load fs (some path) = .error (.unreadableSettings path' fault) ↔
        path' = path ∧ fs.Unreadable path fault) ∧
      (Failure.unreadableSettings path fault).message =
        "Configuration error: Failed to read config file '" ++ path ++ "': " ++ fault.message) ∧
    (∀ p content, fs.find defaultFile = .ok p → fs.entry? p = some (.file content) →
      load fs none = load fs (some defaultFile)) ∧
    ((∀ p content, fs.find defaultFile = .ok p → fs.entry? p ≠ some (.file content)) →
      load fs none = .ok ⟨⟨"warn", none⟩, ⟨.entries, "mid_to_country"⟩⟩) ∧
    (∀ p t, fs.find path = .ok p → fs.entry? p = some (.file t.utf8) →
      (Toml.Document.ofText? t = none → load fs (some path) = .error .unusableSettings) ∧
      ∀ document, Toml.Document.ofText? t = some document →
        (∀ s : Settings, load fs (some path) = .ok s ↔ s.FilledFrom document) ∧
        (load fs (some path) = .error .unusableSettings ↔ Spoilt document)) ∧
    (∀ (s s' : Settings) document document', s.FilledFrom document → s'.FilledFrom document' →
      ∀ f : Field, f.given? document = f.given? document' → f.Same s s') ∧
    (∀ (s : Settings) (document : Items) name v, (∀ f : Field, f.sectionName ≠ name) →
      (s.FilledFrom (document.set name v) ↔ s.FilledFrom document)) ∧
    ∀ (s : Settings) (document : Items) (f : Field) origin (items : Items) name v,
      document.lookup f.sectionName = some (.table origin items) → name ∉ f.declared →
      (s.FilledFrom (document.set f.sectionName (.table origin (items.set name v))) ↔
        s.FilledFrom document) := by
  refine ⟨fun gs hf he => load_congr (FileSystem.readText_congr hf he), fun gs h hn => load_beside h hn,
    fun path' fault => ⟨load_eq_unreadable_iff, rfl⟩, fun p content hp he => ?_, fun h => ?_,
    fun p t hp he => ⟨load_of_no_document hp he, fun document => load_of_document hp he⟩,
    fun s s' document document' h h' f => h.same h', fun s document name v => filledFrom_set,
    fun s document f origin items name v => filledFrom_set_item⟩
  · exact if_pos (FileSystem.isFile_iff.mpr ⟨p, content, hp, he⟩)
  · refine if_neg fun hi => ?_
    obtain ⟨p, content, hp, he⟩ := FileSystem.isFile_iff.mp hi
    exact h p content hp he

/-- A layout, and an item that means nothing. -/
def sampleText (layout : Text) : Text := "[output]\nformat = \"" ++ layout ++ "\"\ncolour = 1\n"

/-- Two documents, one of them with an unknown layout, bytes that are no text, and a directory where the
default file would be. -/
def sampleFiles : FileSystem :=
  ⟨[(["w"], .directory), (["w", "mid-to-iso3166.toml"], .directory),
    (["w", "own.toml"], .file (Text.utf8 (sampleText "function"))),
    (["w", "bad.toml"], .file (Text.utf8 (sampleText "xml"))),
    (["w", "bytes"], .file [255])], ["w"]⟩

theorem loading_fills_each_setting_sample :
    let s : Settings := ⟨⟨"warn", none⟩, ⟨.function, "mid_to_country"⟩⟩
    let output : Items := [("format", .text "function")]
    let document : Items := [("output", .table .header output)]
    load sampleFiles none = .ok ⟨⟨"warn", none⟩, ⟨.entries, "mid_to_country"⟩⟩ ∧
      load sampleFiles (some "mid-to-iso3166.toml") =
        .error (.unreadableSettings "mid-to-iso3166.toml" .isDirectory) ∧
      load sampleFiles (some "bytes") = .error (.unreadableSettings "bytes" .notText) ∧
      load (sampleFiles.put ["w", "mid-to-iso3166.toml"] (.file [])) (some "own.toml") = .ok s ∧
      (∃ document, Toml.Document.ofText? (sampleText "function") = some document ∧
        s.FilledFrom document) ∧
      (∃ document, Toml.Document.ofText? (sampleText "xml") = some document ∧ Spoilt document) ∧
      s.FilledFrom (document.set "colours" (.scalar .float)) ∧
      s.FilledFrom (document.set "output" (.table .header (output.set "colour" (.scalar .float)))) := by
  intro s output document
  have hs : s.FilledFrom document := ofItems?_eq_some_iff.mp (by decide +kernel)
  obtain ⟨-, -, hdirectory, -, hdefault, -, -, hsection, hitem⟩ :=
    loading_fills_each_setting sampleFiles "mid-to-iso3166.toml"
  obtain ⟨-, -, hbytes, -⟩ := loading_fills_each_setting sampleFiles "bytes"
  obtain ⟨-, hbeside, -, -, -, hown, -⟩ := loading_fills_each_setting sampleFiles "own.toml"
  obtain ⟨-, -, -, -, -, hbad, -⟩ := loading_fills_each_setting sampleFiles "bad.toml"
  have hf : sampleFiles.find "mid-to-iso3166.toml" = .ok ["w", "mid-to-iso3166.toml"] := by decide +kernel
  have he : sampleFiles.entry? ["w", "mid-to-iso3166.toml"] = some .directory := by decide +kernel
  have hput : sampleFiles.AgreeBeside (defaultPlace sampleFiles)
      (sampleFiles.put ["w", "mid-to-iso3166.toml"] (.file [])) :=
    ⟨rfl, fun hp => FileSystem.entry?_put_of_ne fun h => hp (h ▸ List.prefix_refl _)⟩
  have hload : load sampleFiles (some "own.toml") = .ok s := by decide +kernel
  have hnotText : ∀ t : Text, t.utf8 ≠ [255] := Text.ofUtf8?_eq_none_iff.mp (by decide +kernel)
  refine ⟨hdefault fun p content hp hc => ?_, (hdirectory _ _).1.mpr ⟨rfl, .directory hf he⟩,
    (hbytes _ _).1.mpr ⟨rfl, .notText (p := ["w", "bytes"]) (by decide +kernel) (by decide +kernel) hnotText⟩,
    (hbeside _ hput (by decide +kernel)).trans hload, ?_, ?_, (hsection _ _ _ _ ?_).mpr hs,
    (hitem _ _ .layout _ _ _ _ rfl (by decide +kernel)).mpr hs⟩
  · obtain rfl := Except.ok.inj (hp.symm.trans hf)
    cases he.symm.trans hc
  · have hd : (Toml.Document.ofText? (sampleText "function")).isSome = true := by decide +kernel
    obtain ⟨document, hd⟩ := Option.isSome_iff_exists.mp hd
    obtain ⟨-, h⟩ := hown ["w", "own.toml"] (sampleText "function") (by decide +kernel) (by decide +kernel)
    exact ⟨document, hd, ((h document hd).1 s).mp hload⟩
  · have hd : (Toml.Document.ofText? (sampleText "xml")).isSome = true := by decide +kernel
    obtain ⟨document, hd⟩ := Option.isSome_iff_exists.mp hd
    obtain ⟨-, h⟩ := hbad ["w", "bad.toml"] (sampleText "xml") (by decide +kernel) (by decide +kernel)
    exact ⟨document, hd, (h document hd).2.mp (by decide +kernel)⟩
  · intro f
    cases f <;> decide

end FlagState.Settings
