import Mathlib.Data.List.Basic
import FlagState.FileSystem
import FlagState.Proofs.Text.Encoding

/-!
What stands in a tree after something was put into it. Nothing that was there goes away (`Extends`), so
paths lead where they led, and what was written is read back (`read_put`).
-/
namespace FlagState.FileSystem

variable {fs gs hs : FileSystem} {p q : Place} {d e : Entry} {path : Text}

theorem isDirectory_iff : fs.isDirectory p = true ↔ fs.entry? p = some .directory := decide_eq_true_iff

private theorem bind_eq_ok {ε α β : Type} {x : Except ε α} {f : α → Except ε β} {b : β} :
    x >>= f = .ok b ↔ ∃ a, x = .ok a ∧ f a = .ok b := by
  cases x with
  | error fault => exact ⟨nofun, fun ⟨_, h, _⟩ => nomatch h⟩
  | ok a => exact ⟨fun h => ⟨a, rfl, h⟩, fun ⟨_, h, hf⟩ => Except.ok.inj h ▸ hf⟩

private theorem bind_eq_error {ε α β : Type} {x : Except ε α} {f : α → Except ε β} {fault : ε} :
    x >>= f = .error fault ↔ x = .error fault ∨ ∃ a, x = .ok a ∧ f a = .error fault := by
  cases x with
  | error fault' =>
    constructor
    · intro h
      exact .inl (congrArg Except.error (Except.error.inj h))
    · rintro (h | ⟨_, h, -⟩)
      · exact congrArg Except.error (Except.error.inj h)
      · cases h
  | ok a =>
    constructor
    · intro h
      exact .inr ⟨a, rfl, h⟩
    · rintro (h | ⟨_, ⟨⟩, hf⟩)
      · cases h
      · exact hf

private theorem lookup_filter (entries : List (Place × Entry)) (h : q ≠ p) :
    (entries.filter (·.1 ≠ p)).lookup q = entries.lookup q := by
  induction entries with
  | nil => rfl
  | cons entry entries ih =>
    obtain ⟨r, e⟩ := entry
    by_cases hr : r = p
    · have hq : (q == r) = false := by simpa [hr] using h
      rw [List.filter_cons_of_neg (by simp [hr]), ih, List.lookup_cons, hq]
    · rw [List.filter_cons_of_pos (by simp [hr]), List.lookup_cons, List.lookup_cons, ih]

theorem entry?_put_self (h : p ≠ []) : entry? (fs.put p e) p = some e := by
  unfold entry? put
  rw [if_neg (by simpa using h), List.lookup_cons_self]

theorem entry?_put_of_ne (h : q ≠ p) : entry? (fs.put p e) q = fs.entry? q := by
  have hq : (q == p) = false := by simpa using h
  unfold entry? put
  rw [List.lookup_cons, hq, lookup_filter _ h]

theorem put_put : (fs.put p d).put p e = fs.put p e := by
  simp [put, List.filter_filter]

section Enter

variable {name : Text}

theorem enter_here (h : fs.isDirectory p = true) : fs.enter p "." = .ok p := by
  rw [enter, h]
  rfl

theorem enter_up (h : fs.isDirectory p = true) : fs.enter p ".." = .ok p.dropLast := by
  rw [enter, h]
  rfl

theorem enter_named (h : fs.isDirectory p = true) (hd : name ≠ ".") (hu : name ≠ "..")
    (hn : (fs.entry? (p ++ [name])).isSome = true) : fs.enter p name = .ok (p ++ [name]) := by
  have hs : ¬ Option.isNone (fs.entry? (p ++ [name])) = true := by simpa [Option.isSome_iff_ne_none] using hn
  rw [enter, h, if_neg (by decide), if_neg hd, if_neg hu, if_neg hs]

theorem enter_eq_ok (h : fs.enter p name = .ok q) :
    fs.isDirectory p = true ∧
      (name = "." ∧ q = p ∨ name = ".." ∧ q = p.dropLast ∨
        name ≠ "." ∧ name ≠ ".." ∧ (fs.entry? (p ++ [name])).isSome = true ∧ q = p ++ [name]) := by
  unfold enter at h
  split at h
  · cases h
  next hp =>
    refine ⟨by simpa using hp, ?_⟩
    split at h
    · next hd => exact .inl ⟨hd, (Except.ok.inj h).symm⟩
    next hd =>
      split at h
      · next hu => exact .inr (.inl ⟨hu, (Except.ok.inj h).symm⟩)
      next hu =>
        split at h
        · cases h
        next hn =>
          rw [Option.isNone_iff_eq_none, ← ne_eq, ← Option.isSome_iff_ne_none] at hn
          exact .inr (.inr ⟨hd, hu, hn, (Except.ok.inj h).symm⟩)

/-- Only a name that stands for nothing is missing. -/
theorem enter_eq_missing (h : fs.enter p name = .error .missing) :
    fs.isDirectory p = true ∧ name ≠ "." ∧ name ≠ ".." ∧ fs.entry? (p ++ [name]) = none := by
  unfold enter at h
  split at h
  · cases h
  next hp =>
    split at h
    · cases h
    next hd =>
      split at h
      · cases h
      next hu =>
        split at h
        · next hn => exact ⟨by simpa using hp, hd, hu, Option.isNone_iff_eq_none.mp hn⟩
        · cases h

end Enter

/-- All that is there stays, but a file may get another content. -/
structure Extends (fs gs : FileSystem) : Prop where
  workingDirectory_eq : gs.workingDirectory = fs.workingDirectory
  isDirectory {p : Place} : fs.isDirectory p = true → gs.isDirectory p = true
  isSome {p : Place} : (fs.entry? p).isSome = true → (gs.entry? p).isSome = true

namespace Extends

theorem refl (fs : FileSystem) : fs.Extends fs := ⟨rfl, id, id⟩

theorem trans (h : fs.Extends gs) (h' : gs.Extends hs) : fs.Extends hs :=
  ⟨h'.workingDirectory_eq.trans h.workingDirectory_eq, fun hp => h'.isDirectory (h.isDirectory hp),
    fun hp => h'.isSome (h.isSome hp)⟩

/-- Whatever may be put in a place, a directory must stay one. -/
theorem put (h : fs.isDirectory p = true → e = .directory) : fs.Extends (fs.put p e) where
  workingDirectory_eq := rfl
  isDirectory {q} hq := by
    by_cases hn : q = p
    · subst hn
      by_cases hr : q = []
      · rw [hr]
        rfl
      · rw [isDirectory_iff, entry?_put_self hr, h hq]
    · rwa [isDirectory_iff, entry?_put_of_ne hn, ← isDirectory_iff]
  isSome {q} hq := by
    by_cases hn : q = p
    · subst hn
      by_cases hr : q = []
      · rw [hr]
        rfl
      · rw [entry?_put_self hr]
        rfl
    · rwa [entry?_put_of_ne hn]

theorem origin (h : fs.Extends gs) (path : Text) : gs.origin path = fs.origin path := by
  rw [FileSystem.origin, FileSystem.origin, h.workingDirectory_eq]

theorem enter (h : fs.Extends gs) {name : Text} (he : fs.enter p name = .ok q) : gs.enter p name = .ok q := by
  obtain ⟨hp, h' | h' | h'⟩ := enter_eq_ok he
  · obtain ⟨rfl, rfl⟩ := h'
    exact enter_here (h.isDirectory hp)
  · obtain ⟨rfl, rfl⟩ := h'
    exact enter_up (h.isDirectory hp)
  · obtain ⟨hd, hu, hn, rfl⟩ := h'
    exact enter_named (h.isDirectory hp) hd hu (h.isSome hn)

theorem walk (h : fs.Extends gs) {names : List Text} (hw : names.foldlM fs.enter p = .ok q) :
    names.foldlM gs.enter p = .ok q := by
  induction names generalizing p with
  | nil => exact hw
  | cons name names ih =>
    rw [List.foldlM_cons, bind_eq_ok] at hw ⊢
    obtain ⟨r, he, hw⟩ := hw
    exact ⟨r, h.enter he, ih hw⟩

theorem find (h : fs.Extends gs) (hf : fs.find path = .ok p) : gs.find path = .ok p := by
  unfold FileSystem.find at hf ⊢
  rw [h.origin]
  split at hf
  · cases hf
  next hn =>
    rw [if_neg hn]
    obtain ⟨q, hw, hf⟩ := bind_eq_ok.mp hf
    refine bind_eq_ok.mpr ⟨q, h.walk hw, ?_⟩
    split at hf
    · cases hf
    next hq =>
      have hq' : ¬ (endsInSlash path && !gs.isDirectory q) = true := by
        simp only [Bool.and_eq_true, Bool.not_eq_true', not_and, Bool.not_eq_false] at hq ⊢
        exact fun hs => h.isDirectory (hq hs)
      rw [if_neg hq', hf]

end Extends

theorem read_eq_ok {content : List UInt8} :
    fs.read path = .ok content ↔ ∃ p, fs.find path = .ok p ∧ fs.entry? p = some (.file content) := by
  rw [read, bind_eq_ok]
  refine exists_congr fun p => and_congr_right fun _ => ?_
  cases fs.entry? p with
  | none => simp
  | some e => cases e <;> simp

/-- Why no text can be read: the path leads nowhere or to no file, or the file holds something else. -/
inductive Unreadable (fs : FileSystem) (path : Text) : IoFault → Prop
  | notFound {fault : IoFault} (hp : fs.find path = .error fault) : Unreadable fs path fault
  | missing {p : Place} (hp : fs.find path = .ok p) (he : fs.entry? p = none) : Unreadable fs path .missing
  | directory {p : Place} (hp : fs.find path = .ok p) (he : fs.entry? p = some .directory) :
    Unreadable fs path .isDirectory
  | notText {p : Place} {content : List UInt8} (hp : fs.find path = .ok p)
    (he : fs.entry? p = some (.file content)) (hc : ∀ t : Text, t.utf8 ≠ content) :
    Unreadable fs path .notText

theorem readText_eq_ok {t : Text} :
    fs.readText path = .ok t ↔ ∃ p, fs.find path = .ok p ∧ fs.entry? p = some (.file t.utf8) := by
  rw [readText, bind_eq_ok, ← read_eq_ok]
  constructor
  · rintro ⟨content, hr, ht⟩
    split at ht
    · next t' hc =>
      obtain rfl := Except.ok.inj ht
      rw [hr, Text.ofUtf8?_eq_some_iff.mp hc]
    · cases ht
  · intro hr
    exact ⟨t.utf8, hr, by rw [Text.ofUtf8?_utf8]⟩

theorem readText_eq_error {fault : IoFault} : fs.readText path = .error fault ↔ fs.Unreadable path fault := by
  constructor
  · intro h
    rw [readText, read, bind_eq_error, bind_eq_error] at h
    obtain (hp | ⟨p, hp, hr⟩) | ⟨content, hr, hc⟩ := h
    · exact .notFound hp
    · split at hr
      · cases hr
      · next he =>
        obtain rfl := Except.error.inj hr
        exact .directory hp he
      · next he =>
        obtain rfl := Except.error.inj hr
        exact .missing hp he
    · obtain ⟨p, hp, he⟩ := read_eq_ok.mp hr
      split at hc
      · cases hc
      · next hn =>
        obtain rfl := Except.error.inj hc
        exact .notText hp he (Text.ofUtf8?_eq_none_iff.mp hn)
  · rintro (hp | ⟨hp, he⟩ | ⟨hp, he⟩ | ⟨hp, he, hc⟩)
    · rw [readText, read, hp]
      rfl
    · simp only [readText, read, hp, he, bind, Except.bind]
    · simp only [readText, read, hp, he, bind, Except.bind]
    · simp only [readText, read_eq_ok.mpr ⟨_, hp, he⟩, Text.ofUtf8?_eq_none_iff.mpr hc, bind, Except.bind]

private theorem walk_of_find (h : fs.find path = .ok p) :
    (names path).foldlM fs.enter (fs.origin path) = .ok p := by
  unfold find at h
  split at h
  · cases h
  · obtain ⟨q, hw, h⟩ := bind_eq_ok.mp h
    split at h
    · cases h
    · exact hw.trans h

theorem isFile_iff :
    fs.isFile path = true ↔ ∃ p content, fs.find path = .ok p ∧ fs.entry? p = some (.file content) := by
  rw [isFile, exists_comm]
  simp only [← read_eq_ok]
  cases fs.read path with
  | error fault => exact ⟨nofun, nofun⟩
  | ok content => exact ⟨fun _ => ⟨content, rfl⟩, fun _ => rfl⟩

theorem readText_congr (hf : gs.find path = fs.find path)
    (he : ∀ p, fs.find path = .ok p → gs.entry? p = fs.entry? p) : gs.readText path = fs.readText path := by
  rw [readText, readText, read, read, hf]
  cases hp : fs.find path with
  | error fault => rfl
  | ok p => simp only [bind, Except.bind, he p hp]

/-- Trees that differ at most in one place and below it. -/
structure AgreeBeside (fs : FileSystem) (q : Place) (gs : FileSystem) : Prop where
  workingDirectory_eq : gs.workingDirectory = fs.workingDirectory
  entry?_eq {p : Place} : ¬ q <+: p → gs.entry? p = fs.entry? p

namespace AgreeBeside

variable {directory : Place} {last name : Text} {ns : List Text}

private theorem isDirectory_eq (h : fs.AgreeBeside q gs) (hp : ¬ q <+: p) :
    gs.isDirectory p = fs.isDirectory p := by
  rw [isDirectory, isDirectory, h.entry?_eq hp]

private theorem enter (h : fs.AgreeBeside (directory ++ [last]) gs) (hn : name ≠ last)
    (hp : ¬ directory ++ [last] <+: p) :
    gs.enter p name = fs.enter p name ∧ ∀ q, fs.enter p name = .ok q → ¬ directory ++ [last] <+: q := by
  have hnamed : ¬ directory ++ [last] <+: p ++ [name] := by
    rw [List.prefix_concat_iff]
    rintro (he | hq)
    · exact hn (List.singleton_inj.mp (List.append_inj_right' he rfl)).symm
    · exact hp hq
  constructor
  · rw [FileSystem.enter, FileSystem.enter, h.isDirectory_eq hp, h.entry?_eq hnamed]
  · intro q hq
    obtain ⟨-, ⟨-, rfl⟩ | ⟨-, rfl⟩ | ⟨-, -, -, rfl⟩⟩ := enter_eq_ok hq
    · exact hp
    · exact fun hd => hp (hd.trans p.dropLast_prefix)
    · exact hnamed

private theorem walk (h : fs.AgreeBeside (directory ++ [last]) gs) (hn : last ∉ ns)
    (hp : ¬ directory ++ [last] <+: p) :
    ns.foldlM gs.enter p = ns.foldlM fs.enter p ∧
      ∀ q, ns.foldlM fs.enter p = .ok q → ¬ directory ++ [last] <+: q := by
  induction ns generalizing p with
  | nil =>
    refine ⟨rfl, fun q hq => ?_⟩
    obtain rfl := Except.ok.inj hq
    exact hp
  | cons name ns ih =>
    rw [List.mem_cons, not_or] at hn
    obtain ⟨he, hq⟩ := h.enter (Ne.symm hn.1) hp
    rw [List.foldlM_cons, List.foldlM_cons, he]
    cases hr : fs.enter p name with
    | error fault => exact ⟨rfl, nofun⟩
    | ok r => exact ih hn.2 (hq r hr)

/-- A path that does not name the place leads where it led, and the same is there. -/
theorem readText_eq (h : fs.AgreeBeside (directory ++ [last]) gs) (hn : last ∉ names path)
    (ho : ¬ directory ++ [last] <+: fs.origin path) : gs.readText path = fs.readText path := by
  have horigin : gs.origin path = fs.origin path := by
    rw [origin, origin, h.workingDirectory_eq]
  obtain ⟨hw, hp⟩ := h.walk hn ho
  refine readText_congr ?_ fun p hf => ?_
  · unfold find
    rw [horigin, hw]
    cases hq : (names path).foldlM fs.enter (fs.origin path) with
    | error fault => rfl
    | ok q => simp only [bind, Except.bind, h.isDirectory_eq (hp q hq)]
  · exact h.entry?_eq (hp p (walk_of_find hf))

end AgreeBeside

section Writing

/-- Where a file can be written no directory is, and a path leads there as soon as something is. -/
theorem fileToWrite_eq_ok (h : fs.fileToWrite path = .ok p) :
    fs.isDirectory p = false ∧
      ∀ gs : FileSystem, fs.Extends gs → (gs.entry? p).isSome = true → gs.find path = .ok p := by
  unfold fileToWrite at h
  split at h
  · cases h
  next hn =>
    split at h
    · cases h
    next name hl =>
      obtain ⟨parent, hw, h⟩ := bind_eq_ok.mp h
      split at h
      · cases h
      next hp =>
        split at h
        · cases h
        next hd =>
          obtain rfl := Except.ok.inj h
          simp only [Bool.or_eq_true, decide_eq_true_eq, not_or, Bool.not_eq_true] at hd
          obtain ⟨⟨⟨hs, hdot⟩, hup⟩, hdir⟩ := hd
          refine ⟨hdir, fun gs hx he => ?_⟩
          have hlast : (names path).dropLast ++ [name] = names path := List.dropLast_append_getLast? name hl
          have he' : gs.enter parent name = .ok (parent ++ [name]) :=
            enter_named (hx.isDirectory (by simpa using hp)) hdot hup he
          rw [find, if_neg hn, ← hlast, List.foldlM_append, hx.origin, hs, bind_eq_ok]
          refine ⟨parent ++ [name], bind_eq_ok.mpr ⟨parent, hx.walk hw, ?_⟩, rfl⟩
          rw [List.foldlM_cons, he']
          rfl

theorem ne_nil_of_fileToWrite (h : fs.fileToWrite path = .ok p) : p ≠ [] := by
  rintro rfl
  cases (fileToWrite_eq_ok h).1

theorem extends_put_file (h : fs.fileToWrite path = .ok p) (content : List UInt8) :
    fs.Extends (fs.put p (.file content)) := by
  refine .put fun hp => ?_
  rw [(fileToWrite_eq_ok h).1] at hp
  cases hp

theorem find_put (h : fs.fileToWrite path = .ok p) (content : List UInt8) :
    (fs.put p (.file content)).find path = .ok p := by
  refine (fileToWrite_eq_ok h).2 _ (extends_put_file h content) ?_
  rw [entry?_put_self (ne_nil_of_fileToWrite h)]
  rfl

/-- What was written is read back. -/
theorem read_put (h : fs.fileToWrite path = .ok p) (content : List UInt8) :
    (fs.put p (.file content)).read path = .ok content :=
  read_eq_ok.mpr ⟨p, find_put h content, entry?_put_self (ne_nil_of_fileToWrite h)⟩

end Writing

/-- Adds to a file, which is made if it is not there; a directory stays what it is. -/
def append (fs : FileSystem) (p : Place) (bytes : List UInt8) : FileSystem :=
  match fs.entry? p with
  | some .directory => fs
  | some (.file content) => fs.put p (.file (content ++ bytes))
  | none => fs.put p (.file bytes)

section Append

variable {bytes : List UInt8}

theorem extends_append : fs.Extends (fs.append p bytes) := by
  unfold append
  split
  · exact .refl fs
  all_goals
    next hp =>
      refine .put fun hd => ?_
      rw [isDirectory_iff, hp] at hd
      cases hd

theorem entry?_append_of_ne (h : q ≠ p) : entry? (fs.append p bytes) q = fs.entry? q := by
  unfold append
  split
  · rfl
  all_goals exact entry?_put_of_ne h

/-- What is added to one file does not show in another. -/
theorem read_append {content : List UInt8} (h : fs.read path = .ok content) (hp : fs.find path ≠ .ok p) :
    (fs.append p bytes).read path = .ok content := by
  obtain ⟨q, hf, he⟩ := read_eq_ok.mp h
  have hq : q ≠ p := by
    rintro rfl
    exact hp hf
  exact read_eq_ok.mpr ⟨q, extends_append.find hf, by rw [entry?_append_of_ne hq, he]⟩

end Append

/-- A path leads to a place if every step along it finds something; the empty path leads to where it starts. -/
def LeadsTo (fs : FileSystem) (path : Text) (p : Place) : Prop :=
  (names path).foldlM fs.enter (fs.origin path) = .ok p

theorem Extends.leadsTo (h : fs.Extends gs) (hp : fs.LeadsTo path p) : gs.LeadsTo path p := by
  rw [LeadsTo, h.origin]
  exact h.walk hp

section MakeDirectories

/-- Only directories are added. -/
structure SameFiles (fs gs : FileSystem) : Prop extends Extends fs gs where
  file_iff {p : Place} {content : List UInt8} :
    gs.entry? p = some (.file content) ↔ fs.entry? p = some (.file content)

private theorem sameFiles_put (h : fs.entry? p = none) : fs.SameFiles (fs.put p .directory) where
  toExtends := .put fun _ => rfl
  file_iff {q content} := by
    by_cases hq : q = p
    · subst hq
      have hn : q ≠ [] := by
        rintro rfl
        cases h
      rw [entry?_put_self hn, h]
      exact ⟨nofun, nofun⟩
    · rw [entry?_put_of_ne hq]

private theorem go_spec (fs : FileSystem) (p : Place) (ns : List Text) :
    fs.SameFiles (makeDirectories.go fs p ns).1 ∧
      ∀ q, (makeDirectories.go fs p ns).2 = some q →
        ns.foldlM (makeDirectories.go fs p ns).1.enter p = .ok q := by
  induction ns generalizing fs p with
  | nil =>
    refine ⟨⟨.refl fs, Iff.rfl⟩, fun q h => ?_⟩
    exact congrArg Except.ok (Option.some.inj h)
  | cons name ns ih =>
    rw [makeDirectories.go]
    split
    · next q he =>
      split
      · obtain ⟨hd, hw⟩ := ih fs q
        refine ⟨hd, fun r hr => ?_⟩
        rw [List.foldlM_cons, bind_eq_ok]
        exact ⟨q, hd.toExtends.enter he, hw r hr⟩
      · exact ⟨⟨.refl fs, Iff.rfl⟩, nofun⟩
    · next he =>
      obtain ⟨hp, hdot, hup, hn⟩ := enter_eq_missing he
      obtain ⟨hd, hw⟩ := ih (fs.put (p ++ [name]) .directory) (p ++ [name])
      have hput := sameFiles_put hn
      have hstep : (fs.put (p ++ [name]) .directory).enter p name = .ok (p ++ [name]) := by
        refine enter_named (hput.toExtends.isDirectory hp) hdot hup ?_
        rw [entry?_put_self (by simp)]
        rfl
      refine ⟨⟨hput.toExtends.trans hd.toExtends, hd.file_iff.trans hput.file_iff⟩, fun r hr => ?_⟩
      rw [List.foldlM_cons, bind_eq_ok]
      exact ⟨p ++ [name], hd.toExtends.enter hstep, hw r hr⟩
    · exact ⟨⟨.refl fs, Iff.rfl⟩, nofun⟩

theorem sameFiles_makeDirectories : fs.SameFiles (fs.makeDirectories path).1 := (go_spec fs _ _).1

/-- The directories that were made are those to which the path leads. -/
theorem leadsTo_makeDirectories (h : (fs.makeDirectories path).2 = some p) :
    LeadsTo (fs.makeDirectories path).1 path p := by
  rw [LeadsTo, sameFiles_makeDirectories.toExtends.origin]
  exact (go_spec fs _ _).2 p h

end MakeDirectories

end FlagState.FileSystem
