import FlagState.Proofs.Country.Grammar
import FlagState.Proofs.Country.Index

/-!
What becomes of the lines of a country table. Each is empty, misread or a row (`length_lines`), and each row
adds a name or replaces the country of an earlier one (`size_add_replacements`). Of two tables put together
the second one has the last word, and its misreadings are numbered on (`tables_join_and_tally`).
-/
namespace FlagState

/-- Whether an event tells that a country took the place of another one. -/
def Event.isReplacement : Event → Bool
  | .replaced .. => true
  | _ => false

def Journal.replacements (j : Journal) : Nat := j.events.countP Event.isReplacement

namespace Journal

theorem replacements_append (j k : Journal) : replacements (j ++ k) = replacements j + replacements k := by
  rw [replacements, events, List.filterMap_append, List.countP_append]
  rfl

theorem replacements_nil : replacements [] = 0 := rfl

theorem replacements_event (e : Event) :
    (Noted.event e).journal.replacements = if e.isReplacement then 1 else 0 := List.countP_singleton

theorem replacements_count (c : Counter) : (Noted.count c).journal.replacements = 0 := rfl

end Journal

namespace Country

open Journal (replacements_append replacements_nil replacements_event replacements_count)

theorem length_lines (lines : List Text) :
    lines.length = lines.count [] + (lines.filter fun line => Row.ofLine line = .malformed).length +
      (ofLines lines).length := by
  induction lines with
  | nil => rfl
  | cons line lines ih =>
    rw [List.length_cons, List.count_cons, List.filter_cons, ofLines_cons, ih]
    cases hr : Row.ofLine line with
    | blank =>
      have hl := Row.ofLine_eq_blank.mp hr
      simp [hl, Row.toOption]
      omega
    | country c =>
      have hl : line ≠ [] := by
        rintro rfl
        cases hr
      simp [hl, Row.toOption]
      omega
    | malformed =>
      have hl := (Row.ofLine_eq_malformed.mp hr).1
      simp [hl, Row.toOption]
      omega

/-- The same misreading in a table that has `n` more lines before it. -/
def Misreading.behind (n : Nat) (m : Misreading) : Misreading := { m with lineNumber := m.lineNumber + n }

namespace Index

/-- A name is new, or the country that stood under it is replaced. -/
theorem size_enter (x : Index) (c : Country) :
    (x.enter c).value.size + (x.enter c).journal.replacements = x.size + 1 := by
  rw [value_enter, size_insert]
  unfold enter
  cases x.find? c.name <;> rfl

theorem size_readLines (n : Nat) (x : Index) (lines : List Text) :
    (readLines n x lines).value.1.size + (readLines n x lines).journal.replacements =
      x.size + (ofLines lines).length := by
  induction lines generalizing n x with
  | nil => rfl
  | cons line lines ih =>
    rw [ofLines_cons, List.length_append]
    unfold readLines
    cases Row.ofLine line with
    | blank => exact (ih (n + 1) x).trans (congrArg _ (Nat.zero_add _).symm)
    | country c =>
      have he := size_enter x c
      have hi := ih (n + 1) (x.enter c).value
      have hc : (Row.country c).toOption.toList.length = 1 := rfl
      simp only [Noted.value_bind, Noted.journal_bind, replacements_append]
      omega
    | malformed =>
      have hi := ih (n + 1) x
      have hm : Row.malformed.toOption.toList.length = 0 := rfl
      simp only [Noted.value_bind, Noted.journal_bind, Noted.value_pure, Noted.journal_pure, replacements_append,
        replacements_nil, replacements_event, replacements_count, Event.isReplacement, Bool.false_eq_true, if_false]
      omega

theorem size_ofTable (table : Text) :
    (ofTable table).value.1.size + (ofTable table).journal.replacements =
      (ofLines (Text.lines table)).length := by
  have hr := size_readLines 1 empty (Text.lines table)
  simp only [ofTable, Noted.value_bind, Noted.journal_bind, Noted.value_pure, Noted.journal_pure,
    replacements_append]
  exact hr.trans (Nat.zero_add _)

theorem find?_ofTable_append (a b name : Text) :
    (ofTable (a ++ '\n' :: b)).value.1.find? name =
      ((ofTable b).value.1.find? name).or ((ofTable a).value.1.find? name) := by
  rw [find?_ofTable, find?_ofTable, find?_ofTable, Text.lines_append, ofLines_append, lastNamed?_append]

theorem misreadings_ofTable_append (a b : Text) :
    (ofTable (a ++ '\n' :: b)).value.2 =
      (ofTable a).value.2 ++ (ofTable b).value.2.map (Misreading.behind (Text.lines a).length) := by
  have hm (p : Text × Nat) : misreading? (Prod.map id (· + (Text.lines a).length) p) =
      (misreading? p).map (Misreading.behind (Text.lines a).length) := by
    rw [misreading?, misreading?, Option.map_if]
    rfl
  rw [misreadings_ofTable, misreadings_ofTable, misreadings_ofTable, Text.lines_append, List.zipIdx_append,
    List.filterMap_append, Nat.add_comm 1, ← List.map_snd_add_zipIdx_eq_zipIdx, List.filterMap_map,
    List.map_filterMap]
  exact congrArg _ (List.filterMap_congr fun p _ => hm p)

/-- In two tables put together a country of the second is found before one of the first, and the misreadings
of the second are numbered on behind the lines of the first. In every table each line is empty, misread or a
row, misreadings stand in order, and each row adds a country to the index or replaces one with a note. -/
theorem tables_join_and_tally :
    (∀ a b name : Text, (ofTable (a ++ '\n' :: b)).value.1.find? name =
      ((ofTable b).value.1.find? name).or ((ofTable a).value.1.find? name)) ∧
    (∀ a b : Text, (ofTable (a ++ '\n' :: b)).value.2 =
      (ofTable a).value.2 ++ (ofTable b).value.2.map (Misreading.behind (Text.lines a).length)) ∧
    ∀ t : Text,
      let lines := Text.lines t
      lines.length = lines.count [] + (ofTable t).value.2.length + (ofLines lines).length ∧
        (ofTable t).value.2.Pairwise (fun m k => m.lineNumber < k.lineNumber) ∧
        (ofLines lines).length = (ofTable t).value.1.size + (ofTable t).journal.replacements := by
  refine ⟨find?_ofTable_append, misreadings_ofTable_append, fun t => ?_⟩
  have hm : (ofTable t).value.2.length =
      ((Text.lines t).filter fun line => Row.ofLine line = .malformed).length := by
    rw [← map_line_ofTable, List.length_map]
  refine ⟨?_, pairwise_misreadings_ofTable t, (size_ofTable t).symm⟩
  rw [hm]
  exact length_lines (Text.lines t)

end Index
end Country
end FlagState
