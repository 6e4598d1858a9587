import FlagState.Settings

/-!
Settings told field by field. A document makes settings just where each field takes what the document gives
for it, or its default if it gives none (`ofItems?_eq_some_iff`); it makes none just where it gives
something of the wrong kind (`ofItems?_eq_none_iff`). The fields do not depend on one another
(`FilledFrom.same`), nor on sections and items of other names (`filledFrom_set`, `filledFrom_set_item`).
-/
namespace FlagState

namespace Toml.Items

theorem lookup_set (items : Items) (name n : Text) (v : Value) :
    (items.set name v).lookup n = if n = name then some v else items.lookup n := by
  induction items with
  | nil =>
    by_cases hn : n = name
    · simp [set, hn]
    · simp [set, hn, List.lookup_cons, beq_eq_false_iff_ne.mpr hn]
  | cons item items ih =>
    obtain ⟨m, w⟩ := item
    rw [set]
    split
    · next hm =>
      subst hm
      by_cases hn : n = m
      · simp [hn]
      · simp [hn, List.lookup_cons, beq_eq_false_iff_ne.mpr hn]
    · next hm =>
      rw [List.lookup_cons, List.lookup_cons, ih]
      by_cases hnm : n = m
      · subst hnm
        simp [hm]
      · simp [beq_eq_false_iff_ne.mpr hnm]

theorem lookup_set_of_ne {items : Items} {name n : Text} {v : Value} (h : n ≠ name) :
    (items.set name v).lookup n = items.lookup n := by
  rw [lookup_set, if_neg h]

end Toml.Items

namespace Settings

open Toml (Items Value)

section Kinds

def IsText (v : Value) (t : Text) : Prop := v = .text t

/-- A layout is its name, or a table with this one name and nothing under it. -/
def IsLayout (v : Value) (l : Layout) : Prop :=
  v = .text l.name ∨ ∃ origin w, v = .table origin [(l.name, w)] ∧ holdsNothing w = true

/-- Texts, and scalars other than moments, are no sections. -/
def IsNoSection (v : Value) : Prop := (∃ t, v = .text t) ∨ ∃ x, v = .scalar x ∧ x ≠ .moment

theorem text?_eq_some_iff (v : Value) (t : Text) : text? v = some t ↔ IsText v t := by
  cases v <;> simp [text?, IsText]

theorem layout?_eq_some_iff (v : Value) (l : Layout) : layout? v = some l ↔ IsLayout v l := by
  unfold layout? IsLayout
  split
  · next t => simp [Layout.ofName?_eq_some_iff]
  · next origin name w =>
    simp only [reduceCtorEq, false_or, Value.table.injEq, List.cons.injEq, Prod.mk.injEq, and_true]
    constructor
    · intro h
      split at h
      · next hw => exact ⟨origin, w, ⟨rfl, Layout.ofName?_eq_some_iff.mp h, rfl⟩, hw⟩
      · cases h
    · rintro ⟨_, _, ⟨-, rfl, rfl⟩, hw⟩
      rw [if_pos hw, Layout.ofName?_eq_some_iff]
  · next ht hl =>
    simp only [reduceCtorEq, false_iff, not_or, not_exists, not_and]
    exact ⟨ht l.name, fun origin w hv => (hl origin l.name w hv).elim⟩

theorem section?_eq_none_iff (declared : List Text) {v : Value} : section? declared v = none ↔
    IsNoSection v := by
  cases v with
  | scalar x => cases x <;> simp [section?, IsNoSection]
  | text t => simp [section?, IsNoSection]
  | _ => simp [section?, IsNoSection]

end Kinds

section Item

variable {α : Type} {items document : Items} {name : Text} {default x y : α} {read? : Value → Option α}
  {is : Value → α → Prop} {given : Option Value}

/-- What is said of an item, if it is there and can be read. -/
def item? (name : Text) (read? : Value → Option α) (items : Items) : Option α :=
  (items.lookup name).bind read?

/-- A setting takes the value that is given, or its default if none is given. -/
def Takes (is : Value → α → Prop) (default : α) : Option Value → α → Prop
  | none, x => x = default
  | some v, x => is v x

theorem exists_takes_iff : (∃ x, Takes is default given x) ↔ ∀ v, given = some v → ∃ x, is v x := by
  cases given with
  | none => exact ⟨nofun, fun _ => ⟨default, rfl⟩⟩
  | some v =>
    simp only [Option.some.injEq, forall_eq']
    exact Iff.rfl

section Read

variable (hread : ∀ v x, read? v = some x ↔ is v x)

include hread

theorem itemOr_eq_some_iff :
    itemOr items name default read? = some x ↔ Takes is default (items.lookup name) x := by
  unfold itemOr
  cases items.lookup name with
  | none => exact Option.some_inj.trans eq_comm
  | some v => exact hread v x

theorem Takes.eq_getD (h : Takes is default given x) : x = (given.bind read?).getD default := by
  cases given with
  | none => exact h
  | some v => exact (congrArg (·.getD default) ((hread v x).mpr h)).symm

theorem Takes.unique (h : Takes is default given x) (h' : Takes is default given y) : x = y :=
  (h.eq_getD hread).trans (h'.eq_getD hread).symm

end Read

/-- A section that is not there is one that says nothing. -/
private theorem itemOr_section_iff {declared : List Text} {holds : Items → α → Prop}
    (hread : ∀ v x, read? v = some x ↔ ∃ items, section? declared v = some items ∧ holds items x)
    (hdefault : ∀ x, holds [] x ↔ x = default) :
    itemOr document name default read? = some x ↔
      (∀ v, document.lookup name = some v → ¬ IsNoSection v) ∧
        holds ((item? name (section? declared) document).getD []) x := by
  rw [itemOr_eq_some_iff hread, item?]
  cases document.lookup name with
  | none => simp [Takes, hdefault]
  | some v =>
    simp only [Takes, Option.some.injEq, forall_eq', Option.bind_some,
      ← section?_eq_none_iff declared]
    cases section? declared v with
    | none => simp
    | some items => simp

end Item

/-- What a document can settle. -/
inductive Field where
  | level
  | directory
  | layout
  | functionName
  deriving DecidableEq, Repr

namespace Field

def sectionName : Field → Text
  | level | directory => "logging"
  | layout | functionName => "output"

/-- The fields of the section, in the order in which an array gives them. -/
def declared : Field → List Text
  | level | directory => ["level", "directory"]
  | layout | functionName => ["format", "function_name"]

def name : Field → Text
  | level => "level"
  | directory => "directory"
  | layout => "format"
  | functionName => "function_name"

theorem name_mem_declared (f : Field) : f.name ∈ f.declared := by
  cases f <;> decide

theorem declared_eq {f g : Field} (h : g.sectionName = f.sectionName) : g.declared = f.declared := by
  cases f <;> cases g <;> first | rfl | exact absurd h (by decide)

/-- What is said of the section, nothing if it is not there. -/
def itemsOf (f : Field) (document : Items) : Items :=
  (item? f.sectionName (section? f.declared) document).getD []

/-- The value that a document gives for the field, if it gives one. -/
def given? (f : Field) (document : Items) : Option Value := (f.itemsOf document).lookup f.name

theorem given?_bind {α : Type} (f : Field) (read? : Value → Option α) (document : Items) :
    (f.given? document).bind read? =
      (item? f.sectionName (section? f.declared) document).bind (item? f.name read?) := by
  rw [given?, itemsOf]
  cases item? f.sectionName (section? f.declared) document <;> rfl

/-- The value is none that the field can take. -/
def Refuses (v : Value) : Field → Prop
  | level | directory | functionName => ∀ t, ¬ IsText v t
  | layout => ∀ l, ¬ IsLayout v l

/-- The field is settled alike. -/
def Same (s s' : Settings) : Field → Prop
  | level => s.logging.level = s'.logging.level
  | directory => s.logging.directory = s'.logging.directory
  | layout => s.output.layout = s'.output.layout
  | functionName => s.output.functionName = s'.output.functionName

end Field

/-- Every field takes what the document gives for it, or its default. -/
structure FilledFrom (s : Settings) (document : Items) : Prop where
  sectioned : ∀ (f : Field) (v : Value), document.lookup f.sectionName = some v → ¬ IsNoSection v
  level : Takes IsText "warn" (Field.level.given? document) s.logging.level
  directory :
    Takes (fun v d => ∃ t, IsText v t ∧ d = some t) none (Field.directory.given? document) s.logging.directory
  layout : Takes IsLayout .entries (Field.layout.given? document) s.output.layout
  functionName : Takes IsText "mid_to_country" (Field.functionName.given? document) s.output.functionName

/-- A section or a field is given something of the wrong kind. -/
def Spoilt (document : Items) : Prop :=
  (∃ (f : Field) (v : Value), document.lookup f.sectionName = some v ∧ IsNoSection v) ∨
    ∃ (f : Field) (v : Value), f.given? document = some v ∧ f.Refuses v

variable {s s' : Settings} {document document' : Items}

private theorem some_text?_iff (v : Value) (d : Option Text) :
    some <$> text? v = some d ↔ ∃ t, IsText v t ∧ d = some t := by
  simp only [Option.map_eq_map, Option.map_eq_some_iff, text?_eq_some_iff]
  exact exists_congr fun t => and_congr_right fun _ => eq_comm

section Sections

/-- What a section says of the logging. -/
private def LoggingFrom (items : Items) (l : Logging) : Prop :=
  Takes IsText "warn" (items.lookup Field.level.name) l.level ∧
    Takes (fun v d => ∃ t, IsText v t ∧ d = some t) none (items.lookup Field.directory.name) l.directory

/-- What a section says of the output. -/
private def OutputFrom (items : Items) (o : Output) : Prop :=
  Takes IsLayout .entries (items.lookup Field.layout.name) o.layout ∧
    Takes IsText "mid_to_country" (items.lookup Field.functionName.name) o.functionName

private theorem logging?_eq_some_iff (v : Value) (l : Logging) :
    logging? v = some l ↔ ∃ items, section? Field.level.declared v = some items ∧ LoggingFrom items l := by
  simp only [logging?, Option.bind_eq_bind, Option.bind_eq_some_iff, Option.pure_def, Option.some.injEq,
    itemOr_eq_some_iff text?_eq_some_iff, itemOr_eq_some_iff some_text?_iff]
  refine exists_congr fun items => and_congr_right fun _ => ?_
  constructor
  · rintro ⟨level, hl, directory, hd, rfl⟩
    exact ⟨hl, hd⟩
  · rintro ⟨hl, hd⟩
    exact ⟨l.level, hl, l.directory, hd, rfl⟩

private theorem output?_eq_some_iff (v : Value) (o : Output) :
    output? v = some o ↔ ∃ items, section? Field.layout.declared v = some items ∧ OutputFrom items o := by
  simp only [output?, Option.bind_eq_bind, Option.bind_eq_some_iff, Option.pure_def, Option.some.injEq,
    itemOr_eq_some_iff layout?_eq_some_iff, itemOr_eq_some_iff text?_eq_some_iff]
  refine exists_congr fun items => and_congr_right fun _ => ?_
  constructor
  · rintro ⟨layout, hl, functionName, hf, rfl⟩
    exact ⟨hl, hf⟩
  · rintro ⟨hl, hf⟩
    exact ⟨o.layout, hl, o.functionName, hf, rfl⟩

private theorem loggingFrom_nil (l : Logging) : LoggingFrom [] l ↔ l = .default := by
  obtain ⟨level, directory⟩ := l
  exact (Logging.mk.injEq ..).symm ▸ Iff.rfl

private theorem outputFrom_nil (o : Output) : OutputFrom [] o ↔ o = .default := by
  obtain ⟨layout, functionName⟩ := o
  exact (Output.mk.injEq ..).symm ▸ Iff.rfl

end Sections

theorem ofItems?_eq_some_iff : ofItems? document = some s ↔ s.FilledFrom document := by
  have hsplit : ofItems? document = some s ↔
      itemOr document Field.level.sectionName Logging.default logging? = some s.logging ∧
        itemOr document Field.layout.sectionName Output.default output? = some s.output := by
    simp only [ofItems?, Option.bind_eq_bind, Option.bind_eq_some_iff, Option.pure_def, Option.some.injEq]
    constructor
    · rintro ⟨logging, hl, output, ho, rfl⟩
      exact ⟨hl, ho⟩
    · rintro ⟨hl, ho⟩
      exact ⟨s.logging, hl, s.output, ho, rfl⟩
  rw [hsplit, itemOr_section_iff logging?_eq_some_iff loggingFrom_nil,
    itemOr_section_iff output?_eq_some_iff outputFrom_nil]
  constructor
  · rintro ⟨⟨hls, hl, hd⟩, hos, ho, hf⟩
    refine ⟨fun f => ?_, hl, hd, ho, hf⟩
    cases f with
    | level | directory => exact hls
    | layout | functionName => exact hos
  · intro h
    exact ⟨⟨h.sectioned .level, h.level, h.directory⟩, h.sectioned .layout, h.layout, h.functionName⟩

theorem exists_filledFrom_iff : (∃ s : Settings, s.FilledFrom document) ↔ ¬ Spoilt document := by
  constructor
  · rintro ⟨s, h⟩ (⟨f, v, hv, hn⟩ | ⟨f, v, hv, hr⟩)
    · exact h.sectioned f v hv hn
    · cases f with
      | level =>
        obtain ⟨t, ht⟩ := exists_takes_iff.mp ⟨_, h.level⟩ v hv
        exact hr t ht
      | directory =>
        obtain ⟨_, t, ht, -⟩ := exists_takes_iff.mp ⟨_, h.directory⟩ v hv
        exact hr t ht
      | layout =>
        obtain ⟨l, hl⟩ := exists_takes_iff.mp ⟨_, h.layout⟩ v hv
        exact hr l hl
      | functionName =>
        obtain ⟨t, ht⟩ := exists_takes_iff.mp ⟨_, h.functionName⟩ v hv
        exact hr t ht
  · intro h
    simp only [Spoilt, not_or, not_exists, not_and] at h
    obtain ⟨hs, hf⟩ := h
    have htext (f : Field) (hr : ∀ v, f.Refuses v = ∀ t, ¬ IsText v t) (v : Value)
        (hv : f.given? document = some v) : ∃ t, IsText v t := by
      have := hf f v hv
      rwa [hr, Classical.not_forall_not] at this
    have hlayout (v : Value) (hv : Field.layout.given? document = some v) : ∃ l, IsLayout v l :=
      Classical.not_forall_not.mp (hf .layout v hv)
    obtain ⟨level, hl⟩ := exists_takes_iff.mpr (htext .level fun _ => rfl)
    have hdirectory (v : Value) (hv : Field.directory.given? document = some v) :
        ∃ d : Option Text, ∃ t, IsText v t ∧ d = some t := by
      obtain ⟨t, ht⟩ := htext .directory (fun _ => rfl) v hv
      exact ⟨some t, t, ht, rfl⟩
    obtain ⟨directory, hd⟩ := exists_takes_iff.mpr hdirectory
    obtain ⟨layout, ho⟩ := exists_takes_iff.mpr hlayout
    obtain ⟨functionName, hn⟩ := exists_takes_iff.mpr (htext .functionName fun _ => rfl)
    exact ⟨⟨⟨level, directory⟩, ⟨layout, functionName⟩⟩, hs, hl, hd, ho, hn⟩

theorem ofItems?_eq_none_iff : ofItems? document = none ↔ Spoilt document := by
  rw [← Classical.not_not (a := Spoilt document), ← exists_filledFrom_iff, not_exists,
    Option.eq_none_iff_forall_ne_some]
  exact forall_congr' fun _ => not_congr ofItems?_eq_some_iff

/-- What a field becomes depends on what is given for it and on nothing else. -/
theorem FilledFrom.same (h : s.FilledFrom document) (h' : s'.FilledFrom document') {f : Field}
    (hf : f.given? document = f.given? document') : f.Same s s' := by
  cases f with
  | level => exact Takes.unique text?_eq_some_iff (hf ▸ h.level) h'.level
  | directory => exact Takes.unique some_text?_iff (hf ▸ h.directory) h'.directory
  | layout => exact Takes.unique layout?_eq_some_iff (hf ▸ h.layout) h'.layout
  | functionName => exact Takes.unique text?_eq_some_iff (hf ▸ h.functionName) h'.functionName

section Unknown

variable {name : Text} {v : Value}

private theorem filledFrom_congr
    (hs : ∀ f : Field, (∀ w, document'.lookup f.sectionName = some w → ¬ IsNoSection w) ↔
      ∀ w, document.lookup f.sectionName = some w → ¬ IsNoSection w)
    (hg : ∀ f : Field, f.given? document' = f.given? document) :
    s.FilledFrom document' ↔ s.FilledFrom document := by
  constructor
  · rintro ⟨hsec, hl, hd, ho, hn⟩
    rw [hg] at hl hd ho hn
    exact ⟨fun f => (hs f).mp (hsec f), hl, hd, ho, hn⟩
  · rintro ⟨hsec, hl, hd, ho, hn⟩
    rw [← hg] at hl hd ho hn
    exact ⟨fun f => (hs f).mpr (hsec f), hl, hd, ho, hn⟩

/-- What stands under another name than those of the sections does not count. -/
theorem filledFrom_set (h : ∀ f : Field, f.sectionName ≠ name) :
    s.FilledFrom (document.set name v) ↔ s.FilledFrom document := by
  have hl (f : Field) : (document.set name v).lookup f.sectionName = document.lookup f.sectionName :=
    Items.lookup_set_of_ne (h f)
  refine filledFrom_congr (fun f => by rw [hl]) fun f => ?_
  rw [Field.given?, Field.itemsOf, item?, hl, Field.given?, Field.itemsOf, item?]

/-- Nor does an item of a section whose name is not that of a field. -/
theorem filledFrom_set_item {f : Field} {origin : Toml.Origin} {items : Items}
    (hs : document.lookup f.sectionName = some (.table origin items)) (hn : name ∉ f.declared) :
    s.FilledFrom (document.set f.sectionName (.table origin (items.set name v))) ↔
      s.FilledFrom document := by
  have hl (g : Field) :
      (document.set f.sectionName (.table origin (items.set name v))).lookup g.sectionName =
        if g.sectionName = f.sectionName then some (.table origin (items.set name v))
        else document.lookup g.sectionName :=
    Items.lookup_set ..
  refine filledFrom_congr (fun g => ?_) fun g => ?_
  · rw [hl]
    split
    · next hg =>
      rw [hg, hs]
      simp [IsNoSection]
    · exact Iff.rfl
  · rw [Field.given?, Field.itemsOf, item?, hl, Field.given?, Field.itemsOf, item?]
    split
    · next hg =>
      have hne : g.name ≠ name := fun he => hn (he ▸ Field.declared_eq hg ▸ g.name_mem_declared)
      rw [hg, hs]
      exact Items.lookup_set_of_ne hne
    · rfl

end Unknown

end Settings
end FlagState
