import Mathlib.Data.Finset.Card
import FlagState.Country.Index

/-!
An index read from lines holds the last country of each name (`find?_ofTable`), and the lines that are
reported with it are the malformed ones (`mem_misreadLines`, `map_line_ofTable`). Entering a country makes an
index larger if its name is new (`size_insert`).
-/
namespace FlagState.Country

def Row.toOption : Row → Option Country
  | country c => some c
  | blank | malformed => none

/-- The countries of lines in their order; other lines are passed over. -/
def ofLines (lines : List Text) : List Country := lines.filterMap fun line => (Row.ofLine line).toOption

theorem ofLines_cons (line : Text) (lines : List Text) :
    ofLines (line :: lines) = (Row.ofLine line).toOption.toList ++ ofLines lines := by
  rw [ofLines, List.filterMap_cons]
  cases (Row.ofLine line).toOption <;> rfl

theorem ofLines_append (a b : List Text) : ofLines (a ++ b) = ofLines a ++ ofLines b := List.filterMap_append

theorem mem_ofLines {lines : List Text} {c : Country} :
    c ∈ ofLines lines ↔ ∃ line ∈ lines, Row.ofLine line = .country c := by
  rw [ofLines, List.mem_filterMap]
  refine exists_congr fun line => and_congr_right fun _ => ?_
  cases Row.ofLine line <;> simp [Row.toOption]

def lastNamed? (cs : List Country) (name : Text) : Option Country := (cs.filter (·.name = name)).getLast?

theorem lastNamed?_append (a b : List Country) (name : Text) :
    lastNamed? (a ++ b) name = (lastNamed? b name).or (lastNamed? a name) := by
  rw [lastNamed?, List.filter_append, List.getLast?_append]
  rfl

theorem mem_of_lastNamed? {cs : List Country} {name : Text} {c : Country} (h : lastNamed? cs name = some c) :
    c ∈ cs ∧ c.name = name := by
  simpa using List.mem_of_getLast? h

theorem isSome_lastNamed? {cs : List Country} {c : Country} (h : c ∈ cs) :
    (lastNamed? cs c.name).isSome = true := by
  have hne : cs.filter (·.name = c.name) ≠ [] := List.ne_nil_of_mem (List.mem_filter.mpr ⟨h, by simp⟩)
  simpa [lastNamed?, List.getLast?_isSome] using hne

namespace Index

theorem value_enter (x : Index) (c : Country) : (x.enter c).value = x.insert c := by
  unfold enter
  split <;> rfl

theorem value_readLines (n : Nat) (x : Index) (lines : List Text) :
    (readLines n x lines).value.1 = (ofLines lines).foldl insert x := by
  induction lines generalizing n x with
  | nil => rfl
  | cons line lines ih =>
    rw [ofLines_cons]
    unfold readLines
    cases Row.ofLine line with
    | blank => exact ih (n + 1) x
    | country c => rw [Noted.value_bind, value_enter, ih (n + 1) (x.insert c)]; rfl
    | malformed => exact ih (n + 1) x

theorem find?_foldl_insert (x : Index) (cs : List Country) (name : Text) :
    (cs.foldl insert x).find? name = (lastNamed? cs name).or (x.find? name) := by
  induction cs generalizing x with
  | nil => rfl
  | cons c cs ih =>
    rw [List.foldl_cons, ih, find?_insert]
    by_cases hc : c.name = name
    · rw [if_pos hc, lastNamed?, lastNamed?, List.filter_cons_of_pos (by simpa using hc),
        List.getLast?_cons]
      cases (cs.filter (·.name = name)).getLast? <;> rfl
    · rw [if_neg hc, lastNamed?, lastNamed?, List.filter_cons_of_neg (by simpa using hc)]

theorem find?_ofTable (table name : Text) :
    (ofTable table).value.1.find? name = lastNamed? (ofLines (Text.lines table)) name := by
  simp only [ofTable, Noted.value_bind, Noted.value_pure, value_readLines, find?_foldl_insert,
    find?_empty, Option.or_none]

/-- The names that the countries of an index stand under. -/
def names (x : Index) : Finset Text := (x.countries.map Country.name).toFinset

theorem card_names (x : Index) : x.names.card = x.size := by
  rw [names, List.toFinset_card_of_nodup x.distinct, List.length_map, size]

theorem mem_names {x : Index} {name : Text} : name ∈ x.names ↔ (x.find? name).isSome = true := by
  simp [names, find?]

theorem names_insert (x : Index) (c : Country) : (x.insert c).names = Insert.insert c.name x.names := by
  ext name
  rw [mem_names, find?_insert, Finset.mem_insert, mem_names]
  by_cases h : c.name = name
  · simp [h]
  · simp [h, Ne.symm h]

theorem size_insert (x : Index) (c : Country) :
    (x.insert c).size = x.size + if x.find? c.name = none then 1 else 0 := by
  rw [← card_names, ← card_names, names_insert]
  cases h : x.find? c.name with
  | none => exact Finset.card_insert_of_notMem (by simp [mem_names, h])
  | some d => exact congrArg Finset.card (Finset.insert_eq_of_mem (by simp [mem_names, h]))

/-- A line as a misreading, if it is malformed. -/
def misreading? (p : Text × Nat) : Option Misreading :=
  if Row.ofLine p.1 = .malformed then some ⟨p.2, p.1⟩ else none

private theorem misreadings_readLines (n : Nat) (x : Index) (lines : List Text) :
    (readLines n x lines).value.2 = (lines.zipIdx n).filterMap misreading? := by
  induction lines generalizing n x with
  | nil => rfl
  | cons line lines ih =>
    unfold readLines
    rw [List.zipIdx_cons, List.filterMap_cons, misreading?]
    cases hr : Row.ofLine line with
    | blank => simp only [ih, reduceCtorEq, if_false]
    | country c => simp only [Noted.value_bind, ih, reduceCtorEq, if_false]
    | malformed => simp only [Noted.value_bind, Noted.value_pure, ih, if_true]

/-- The misreadings of a table are its malformed lines with the numbers under which they stand in it. -/
theorem misreadings_ofTable (table : Text) :
    (ofTable table).value.2 = ((Text.lines table).zipIdx 1).filterMap misreading? := by
  simp only [ofTable, Noted.value_bind, Noted.value_pure, misreadings_readLines]

theorem pairwise_misreadings_ofTable (table : Text) :
    (ofTable table).value.2.Pairwise fun m k => m.lineNumber < k.lineNumber := by
  rw [misreadings_ofTable]
  have hp : ((Text.lines table).zipIdx 1).Pairwise fun p q => p.2 < q.2 := by
    rw [← List.pairwise_map, List.zipIdx_map_snd]
    exact List.pairwise_lt_range'
  refine hp.filterMap _ fun p q hpq m hm k hk => ?_
  obtain ⟨-, hm⟩ := Option.ite_none_right_eq_some.mp hm
  obtain ⟨-, hk⟩ := Option.ite_none_right_eq_some.mp hk
  obtain rfl := Option.some.inj hm
  obtain rfl := Option.some.inj hk
  exact hpq

/-- The numbers of the lines that could not be read. -/
def misreadLines (table : Text) : List Nat := (ofTable table).value.2.map Misreading.lineNumber

theorem mem_misreadLines {table : Text} {i : Nat} :
    i ∈ misreadLines table ↔
      ∃ k line, i = 1 + k ∧ (Text.lines table)[k]? = some line ∧ Row.ofLine line = .malformed := by
  rw [misreadLines, misreadings_ofTable]
  simp only [List.mem_map, List.mem_filterMap, misreading?, Option.ite_none_right_eq_some, Prod.exists,
    Option.some.injEq, List.mk_mem_zipIdx_iff_le_and_getElem?_sub]
  constructor
  · rintro ⟨m, ⟨line, n, ⟨hn, hl⟩, hm, rfl⟩, rfl⟩
    exact ⟨n - 1, line, (Nat.add_sub_cancel' hn).symm, hl, hm⟩
  · rintro ⟨k, line, rfl, hl, hm⟩
    exact ⟨_, ⟨line, 1 + k, ⟨by omega, by rwa [Nat.add_sub_cancel_left]⟩, hm, rfl⟩, rfl⟩

theorem map_line_ofTable (table : Text) :
    (ofTable table).value.2.map Misreading.line =
      (Text.lines table).filter fun line => Row.ofLine line = .malformed := by
  have hg (p : Text × Nat) : (misreading? p).map Misreading.line =
      (Option.guard fun line => Row.ofLine line = .malformed) p.1 := by
    by_cases hm : Row.ofLine p.1 = .malformed <;> simp [misreading?, Option.guard, hm]
  calc (ofTable table).value.2.map Misreading.line
      = ((Text.lines table).zipIdx 1).filterMap fun p =>
          (Option.guard fun line => Row.ofLine line = .malformed) p.1 := by
        rw [misreadings_ofTable, List.map_filterMap]
        simp only [hg]
    _ = (((Text.lines table).zipIdx 1).map Prod.fst).filterMap
          (Option.guard fun line => Row.ofLine line = .malformed) := by
        rw [List.filterMap_map]
        rfl
    _ = _ := by rw [List.zipIdx_map_fst, List.filterMap_eq_filter]

end Index
end FlagState.Country
