import FlagState.Proofs.Country.Index

/-!
An index after any history of tables read and countries entered. A table makes a new beginning, each step
keeps an index in accord with what was entered since (`Holds.perform`), and so the index finds the country
entered last under a name and counts the names (`index_finds_last_entered`).
-/
namespace FlagState.Country.Index

/-- What can be done to an index: a table is read in its place, or one more country is entered. -/
inductive Step where
  | table (t : Text)
  | country (c : Country)

namespace Step

def perform (x : Index) : Step → Noted Index
  | table t => Prod.fst <$> ofTable t
  | country c => x.enter c

/-- The countries entered since the last table, those of the table first, when `cs` are so before a step. -/
def entered (cs : List Country) : Step → List Country
  | table t => ofLines (Text.lines t)
  | country c => cs ++ [c]

end Step

/-- The index that a history leaves, if it begins with the empty one. -/
def after (history : List Step) : Noted Index := history.foldlM Step.perform empty

def enteredIn (history : List Step) : List Country := history.foldl Step.entered []

/-- The countries of an index are the last ones of each name. -/
def Holds (x : Index) (cs : List Country) : Prop := ∀ name, x.find? name = lastNamed? cs name

namespace Holds

variable {x : Index} {cs : List Country} (h : x.Holds cs)

include h

theorem perform (s : Step) : (s.perform x).value.Holds (s.entered cs) := by
  intro name
  cases s with
  | table t => exact find?_ofTable t name
  | country c =>
    have he : (x.enter c).value.find? name = if c.name = name then some c else x.find? name := by
      rw [value_enter, find?_insert]
    rw [Step.entered, lastNamed?_append, ← h name]
    refine he.trans ?_
    by_cases hc : c.name = name <;> simp [lastNamed?, hc]

theorem names_eq : x.names = (cs.map Country.name).toFinset := by
  ext name
  rw [mem_names, h name, List.mem_toFinset]
  constructor
  · intro hs
    obtain ⟨c, hc⟩ := Option.isSome_iff_exists.mp hs
    obtain ⟨hm, rfl⟩ := mem_of_lastNamed? hc
    exact List.mem_map_of_mem hm
  · intro hm
    obtain ⟨c, hc, rfl⟩ := List.mem_map.mp hm
    exact isSome_lastNamed? hc

end Holds

theorem value_after_concat (history : List Step) (s : Step) :
    (after (history ++ [s])).value = (s.perform (after history).value).value := by
  simp only [after, List.foldlM_append, List.foldlM_cons, List.foldlM_nil, bind_pure, Noted.value_bind]

theorem enteredIn_concat (history : List Step) (s : Step) :
    enteredIn (history ++ [s]) = s.entered (enteredIn history) := by
  rw [enteredIn, List.foldl_append]
  rfl

theorem holds_after (history : List Step) : (after history).value.Holds (enteredIn history) := by
  -- From the end, so that each step is made from an index that is in accord with all that came before.
  induction history using List.reverseRecOn with
  | nil => exact fun _ => rfl
  | append_singleton history s ih =>
    rw [value_after_concat, enteredIn_concat]
    exact ih.perform s

/-- After any history an index finds the country that was entered last under a name since the last table. It
has one country for each name entered, and one more country changes what is found under its own name only. -/
theorem index_finds_last_entered (history : List Step) :
    let x := (after history).value
    let cs := enteredIn history
    (∀ name, x.find? name = lastNamed? cs name ∧ x.alpha2? name = (lastNamed? cs name).map Country.alpha2) ∧
    (∀ name c, x.find? name = some c → c.name = name) ∧
    x.size = (cs.map Country.name).toFinset.card ∧ (x.isEmpty = true ↔ x.size = 0) ∧
    ∀ c : Country,
      let y := (after (history ++ [.country c])).value
      y.size = x.size + (if x.find? c.name = none then 1 else 0) ∧
        ∀ name, y.find? name = if c.name = name then some c else x.find? name := by
  intro x cs
  have hx : x.Holds cs := holds_after history
  refine ⟨fun name => ⟨hx name, ?_⟩, fun name c => name_of_find?, ?_, ?_, fun c => ?_⟩
  · rw [alpha2?, hx name]
  · rw [← card_names, hx.names_eq]
  · rw [isEmpty, List.isEmpty_iff, size, List.length_eq_zero_iff]
  · intro y
    have hy : y = x.insert c := (value_after_concat history (.country c)).trans (value_enter x c)
    rw [hy]
    exact ⟨size_insert x c, find?_insert x c⟩

end FlagState.Country.Index
