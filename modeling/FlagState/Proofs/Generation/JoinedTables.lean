import FlagState.Proofs.Generation.Output

/-!
Runs over tables of allocations put one behind the other. The joined table is listed as the first one and
then the second, but for the arm at the seam (`arms_append`), and an unknown country in the first one hides
the second (`arms_append_of_unmatched`). A run sees the allocations of a table only (`run_congr`).
-/
namespace FlagState

open Spelling (RuleSet allocationRules)

/-- The first line commented out, if there is one. -/
def Listing.commentOut : List UInt8 → List UInt8
  | [] => []
  | byte :: bytes => Text.utf8 "//" ++ byte :: bytes

namespace Arm

variable {as : List Arm} (h : ∀ a ∈ as.head?, a.suppressed = false)

include h

theorem utf8_lines_suppress :
    (lines (as.modifyHead suppress)).utf8 = Listing.commentOut (lines as).utf8 := by
  cases as with
  | nil => rfl
  | cons a as =>
    have ha : a.suppressed = false := h a rfl
    have ht : a.suppress.text = "//" ++ a.text := by
      simp [text, suppress, ha]
    have hl : lines (a.suppress :: as) = "//" ++ lines (a :: as) := by
      simp only [lines, List.map_cons, List.flatten_cons, ht, List.append_assoc]
    obtain ⟨byte, bytes, hb⟩ : ∃ byte bytes, (lines (a :: as)).utf8 = byte :: bytes := by
      simp only [lines, text, ha, List.map_cons, List.flatten_cons]
      exact ⟨_, _, rfl⟩
    rw [List.modifyHead_cons, hl, Text.utf8_append, hb]
    rfl

/-- The arm at the seam moves from one count to the other. -/
theorem countP_seam (bs : List Arm) {seam : Bool} (hne : seam = true → as ≠ []) :
    let joined := bs ++ if seam then as.modifyHead suppress else as
    joined.countP (!·.suppressed) + seam.toNat =
        bs.countP (!·.suppressed) + as.countP (!·.suppressed) ∧
      joined.countP (·.suppressed) =
        bs.countP (·.suppressed) + as.countP (·.suppressed) + seam.toNat := by
  cases seam with
  | false => simp
  | true =>
    obtain ⟨a, as, rfl⟩ := List.exists_cons_of_ne_nil (hne rfl)
    have ha : a.suppressed = false := h a rfl
    simp [suppress, ha, Nat.add_assoc]

end Arm

namespace Tables

theorem linewiseAllocations_append (a b countries : Text) :
    linewiseAllocations ⟨a ++ '\n' :: b, countries⟩ =
      linewiseAllocations ⟨a, countries⟩ ++ linewiseAllocations ⟨b, countries⟩ := by
  simp only [linewiseAllocations, Allocation.ofLines, Text.lines_append, List.map_append,
    List.filterMap_append]

/-- A line that gives no allocation leaves no trace. -/
theorem linewiseAllocations_of_no_row {line : Text}
    (hn : Allocation.ofLine? (allocationRules.apply line) = none) {before behind : List Text} {s t : Text}
    (hs : Text.lines s = before ++ behind) (ht : Text.lines t = before ++ line :: behind)
    {countries : Text} : linewiseAllocations ⟨t, countries⟩ = linewiseAllocations ⟨s, countries⟩ := by
  simp only [linewiseAllocations, hs, ht, Allocation.ofLines, List.map_append, List.map_cons,
    List.filterMap_append]
  rw [List.filterMap_cons_none hn]

theorem journal_respelt (tables : Tables) : tables.respelt.journal =
    [.event (.respelt allocationRules.name allocationRules.rules.length),
      .event (.respelt Spelling.countryRules.name Spelling.countryRules.rules.length)] := rfl

variable {s t : Tables}

theorem countries_respelt_congr (h : s.countries = t.countries) :
    s.respelt.value.countries = t.respelt.value.countries := by
  simp only [respelt, RuleSet.respell, Noted.value_bind, Noted.value_pure, h]

theorem ofTable_respelt_congr (h : s.linewiseAllocations = t.linewiseAllocations) :
    Allocation.ofTable s.respelt.value.allocations = Allocation.ofTable t.respelt.value.allocations := by
  have hs := Spelling.withinNames_allocationRules.newline_not_mem
  simp only [linewiseAllocations] at h
  simp only [Allocation.ofTable, respelt, RuleSet.respell, Noted.value_bind, Noted.value_pure,
    RuleSet.lines_apply hs, h]

end Tables

namespace Generation

/-- A run depends on the allocations that its lines give, and on nothing else of their table. -/
theorem run_congr {s t : Tables} (hc : s.countries = t.countries)
    (ha : s.linewiseAllocations = t.linewiseAllocations) (l : Listing) (diagnostics : Sink) :
    run s l diagnostics = run t l diagnostics := by
  have hj := s.journal_respelt.trans t.journal_respelt.symm
  have hx := Tables.countries_respelt_congr hc
  have ht := Tables.ofTable_respelt_congr ha
  unfold run
  -- The respelt tables may differ in the text of their allocations, which only `ofTable` reads.
  generalize s.respelt = x at hj hx ht ⊢
  generalize t.respelt = y at hj hx ht ⊢
  obtain ⟨⟨_, _⟩, _⟩ := x
  obtain ⟨⟨_, _⟩, _⟩ := y
  dsimp only at hj hx ht
  subst hj hx
  simp only [bind, ht]

theorem countriesOf_congr {s t : Tables} (hc : s.countries = t.countries) :
    countriesOf s = countriesOf t := by
  unfold countriesOf
  rw [Tables.countries_respelt_congr hc]

section Joined

variable (a b countries : Text)

theorem arms_append_of_unmatched {u : Allocation} (h : unmatched? ⟨a, countries⟩ = some u) :
    arms ⟨a ++ '\n' :: b, countries⟩ = arms ⟨a, countries⟩ := by
  rw [unmatched?_eq_unknown?] at h
  have hx : countriesOf ⟨a ++ '\n' :: b, countries⟩ = countriesOf ⟨a, countries⟩ := countriesOf_congr rfl
  rw [arms_eq_armsAfter, arms_eq_armsAfter, Tables.linewiseAllocations_append, hx]
  exact Matching.armsAfter_append_of_unknown h none _

theorem unmatched?_append :
    unmatched? ⟨a ++ '\n' :: b, countries⟩ =
      (unmatched? ⟨a, countries⟩).or (unmatched? ⟨b, countries⟩) := by
  simp only [unmatched?, Tables.linewiseAllocations_append, List.find?_append]
  rfl

/-- The digits of the last allocation of `a` are those of the first one of `b`. -/
def meet : Bool :=
  Allocation.meet (Tables.linewiseAllocations ⟨a, countries⟩) (Tables.linewiseAllocations ⟨b, countries⟩)

theorem arms_append (h : unmatched? ⟨a, countries⟩ = none) :
    arms ⟨a ++ '\n' :: b, countries⟩ =
      arms ⟨a, countries⟩ ++
        if meet a b countries then (arms ⟨b, countries⟩).modifyHead Arm.suppress
        else arms ⟨b, countries⟩ := by
  rw [unmatched?_eq_unknown?] at h
  have hx : countriesOf ⟨a ++ '\n' :: b, countries⟩ = countriesOf ⟨a, countries⟩ := countriesOf_congr rfl
  have hy : countriesOf ⟨b, countries⟩ = countriesOf ⟨a, countries⟩ := countriesOf_congr rfl
  simp only [arms_eq_armsAfter, Tables.linewiseAllocations_append, hx, hy, meet]
  exact Matching.armsAfter_append h _

variable {a b countries}

/-- A table whose first allocation repeats digits has an arm, unless that allocation is unknown. -/
private theorem arms_ne_nil (h : unmatched? ⟨b, countries⟩ = none) (hm : meet a b countries = true) :
    arms ⟨b, countries⟩ ≠ [] := by
  have hk : ∀ c ∈ Tables.linewiseAllocations ⟨b, countries⟩,
      (Tables.code? ⟨b, countries⟩ c.country).isSome = true := by
    simpa [unmatched?, Option.isSome_iff_ne_none] using h
  intro hn
  have hl := length_arms hk
  rw [hn, List.length_nil, eq_comm, List.length_eq_zero_iff] at hl
  rw [meet, hl] at hm
  cases hm

end Joined

theorem suppressed_head_arms (tables : Tables) : ∀ a ∈ (arms tables).head?, a.suppressed = false := by
  rw [arms_eq_armsAfter]
  exact Matching.suppressed_head_armsAfter _

section Conclusions

variable {a b countries : Text}

private theorem conclusion_append_of_error {e : Failure} (h : conclusion ⟨a, countries⟩ = .error e) :
    arms ⟨a ++ '\n' :: b, countries⟩ = arms ⟨a, countries⟩ ∧
      conclusion ⟨a ++ '\n' :: b, countries⟩ = .error e := by
  rw [conclusion_eq_arms] at h
  cases hu : unmatched? ⟨a, countries⟩ with
  | none =>
    rw [hu] at h
    cases h
  | some u =>
    rw [hu] at h
    refine ⟨arms_append_of_unmatched a b countries hu, ?_⟩
    rw [conclusion_eq_arms, unmatched?_append, hu, Option.some_or]
    exact h

private theorem unmatched?_of_ok {r : Report} (h : conclusion ⟨a, countries⟩ = .ok r) :
    unmatched? ⟨a, countries⟩ = none ∧
      r = ⟨(arms ⟨a, countries⟩).countP (!·.suppressed), (arms ⟨a, countries⟩).countP (·.suppressed),
        (countriesOf ⟨a, countries⟩).2⟩ := by
  rw [conclusion_eq_arms] at h
  cases hu : unmatched? ⟨a, countries⟩ with
  | none =>
    rw [hu] at h
    exact ⟨rfl, (Except.ok.inj h).symm⟩
  | some u =>
    rw [hu] at h
    cases h

private theorem conclusion_append_of_ok_of_error {r : Report} {e : Failure}
    (ha : conclusion ⟨a, countries⟩ = .ok r) (hb : conclusion ⟨b, countries⟩ = .error e) :
    conclusion ⟨a ++ '\n' :: b, countries⟩ = .error e := by
  rw [conclusion_eq_arms] at hb ⊢
  rw [unmatched?_append, (unmatched?_of_ok ha).1, Option.none_or]
  cases hu : unmatched? ⟨b, countries⟩ with
  | none =>
    rw [hu] at hb
    cases hb
  | some u =>
    rw [hu] at hb
    exact hb

private theorem conclusion_append_of_ok {r s : Report} (ha : conclusion ⟨a, countries⟩ = .ok r)
    (hb : conclusion ⟨b, countries⟩ = .ok s) :
    ∃ q, conclusion ⟨a ++ '\n' :: b, countries⟩ = .ok q ∧
      q.active + (meet a b countries).toNat = r.active + s.active ∧
      q.suppressed = r.suppressed + s.suppressed + (meet a b countries).toNat ∧
      q.misreadings = r.misreadings := by
  obtain ⟨hu, rfl⟩ := unmatched?_of_ok ha
  obtain ⟨hv, rfl⟩ := unmatched?_of_ok hb
  have hx : countriesOf ⟨a ++ '\n' :: b, countries⟩ = countriesOf ⟨a, countries⟩ := countriesOf_congr rfl
  have hn : unmatched? ⟨a ++ '\n' :: b, countries⟩ = none := by rw [unmatched?_append, hu, hv, Option.or_none]
  have hc := conclusion_eq_arms ⟨a ++ '\n' :: b, countries⟩
  rw [hn, arms_append a b countries hu, hx] at hc
  obtain ⟨hactive, hsuppressed⟩ :=
    Arm.countP_seam (suppressed_head_arms ⟨b, countries⟩) (arms ⟨a, countries⟩) (arms_ne_nil hv)
  exact ⟨_, hc, hactive, hsuppressed, rfl⟩

end Conclusions

/-- A table of allocations behind another one is listed as on its own, with the first arm commented out if
it repeats the last digits, and not at all if the first table holds an unknown country. Lines that give
no allocation can be put in anywhere. -/
theorem run_of_joined_tables (a b countries : Text) {l : Listing} (hlayout : l.layout = .entries)
    (hl : l.sink.capacity = none) {diagnostics : Sink} (hd : diagnostics.capacity = none) :
    let out (t : Text) := output ⟨t, countries⟩ l diagnostics
    let outcome (t : Text) := (run ⟨t, countries⟩ l diagnostics).value.outcome
    let joined := a ++ '\n' :: b
    let repeated := meet a b countries
    (∀ e, outcome a = .error e → out joined = out a ∧ outcome joined = .error e) ∧
      (∀ r, outcome a = .ok r →
        (out joined = out a ++ if repeated then Listing.commentOut (out b) else out b) ∧
        (∀ e, outcome b = .error e → outcome joined = .error e) ∧
        ∀ s, outcome b = .ok s → ∃ q, outcome joined = .ok q ∧
          q.active + repeated.toNat = r.active + s.active ∧
          q.suppressed = r.suppressed + s.suppressed + repeated.toNat ∧
          q.misreadings = r.misreadings) ∧
      ∀ (before behind : List Text) (line s t : Text),
        Allocation.ofLine? (allocationRules.apply line) = none →
        Text.lines s = before ++ behind → Text.lines t = before ++ line :: behind →
          ∀ (k : Listing) (e : Sink), run ⟨t, countries⟩ k e = run ⟨s, countries⟩ k e := by
  have hout (t : Text) :
      output ⟨t, countries⟩ l diagnostics = (Arm.lines (arms ⟨t, countries⟩)).utf8 := by
    have hh : Layout.entries.header l.functionName = [] := rfl
    rw [output_eq _ hl hd, listed_eq_arms, hlayout, closing_entries, List.append_nil, hh, List.nil_append]
  have hcon (t : Text) : (run ⟨t, countries⟩ l diagnostics).value.outcome = conclusion ⟨t, countries⟩ :=
    (contents_run hl hd).2
  simp only [hout, hcon]
  refine ⟨fun e ha => ?_, fun r ha => ⟨?_, fun e hb => ?_, fun s hb => ?_⟩, ?_⟩
  · obtain ⟨harms, he⟩ := conclusion_append_of_error (b := b) ha
    exact ⟨by rw [harms], he⟩
  · have hs := Arm.utf8_lines_suppress (suppressed_head_arms ⟨b, countries⟩)
    rw [arms_append a b countries (unmatched?_of_ok ha).1, Arm.lines_append, Text.utf8_append]
    split
    · rw [hs]
    · rfl
  · exact conclusion_append_of_ok_of_error ha hb
  · exact conclusion_append_of_ok ha hb
  · intro before behind line s t hn hs ht k e
    have hc : (⟨t, countries⟩ : Tables).countries = (⟨s, countries⟩ : Tables).countries := rfl
    exact run_congr hc (Tables.linewiseAllocations_of_no_row hn hs ht) k e

def twoCountries : Text := "A  AA AAA 1\nB  BB BBB 2"

/-- A row and a line that gives no allocation. -/
def rowFirst : Text := "306\tA\nno row"

/-- A row of the same digits behind an empty line. -/
def rowLast : Text := "\n306\tB (c)"

/-- The rows of equal digits have lines between them that give no allocation. -/
theorem run_of_joined_tables_repeated :
    (Listing.into (Sink.ofCapacity none) .entries).layout = .entries ∧
      (run ⟨rowFirst, twoCountries⟩ (.into (Sink.ofCapacity none) .entries)
        (Sink.ofCapacity none)).value.outcome = .ok ⟨1, 0, []⟩ ∧
      (run ⟨rowLast, twoCountries⟩ (.into (Sink.ofCapacity none) .entries)
        (Sink.ofCapacity none)).value.outcome = .ok ⟨1, 0, []⟩ ∧
      meet rowFirst rowLast twoCountries = true ∧
      ∃ q, (run ⟨rowFirst ++ '\n' :: rowLast, twoCountries⟩ (.into (Sink.ofCapacity none) .entries)
        (Sink.ofCapacity none)).value.outcome = .ok q ∧ q.active = 1 ∧ q.suppressed = 1 := by
  have ha : Tables.linewiseAllocations ⟨rowFirst, twoCountries⟩ = [⟨"306", "A"⟩] := by
    rw [Tables.linewiseAllocations_eq_evaluated]
    decide +kernel
  have hb : Tables.linewiseAllocations ⟨rowLast, twoCountries⟩ = [⟨"306", "B"⟩] := by
    rw [Tables.linewiseAllocations_eq_evaluated]
    decide +kernel
  have hca : Tables.code? ⟨rowFirst, twoCountries⟩ "A" = some ("AA" : Text) := by decide +kernel
  have hcb : Tables.code? ⟨rowLast, twoCountries⟩ "B" = some ("BB" : Text) := by decide +kernel
  have hl : (Listing.into (Sink.ofCapacity none) .entries).sink.capacity = none := rfl
  have hd : (Sink.ofCapacity none).capacity = none := rfl
  have hlayout : (Listing.into (Sink.ofCapacity none) .entries).layout = .entries := rfl
  have hm : meet rowFirst rowLast twoCountries = true := by
    rw [meet, ha, hb]
    decide
  have hoa : (run ⟨rowFirst, twoCountries⟩ (.into (Sink.ofCapacity none) .entries)
      (Sink.ofCapacity none)).value.outcome = .ok ⟨1, 0, []⟩ := by
    rw [(contents_run hl hd).2, (arms_of_single ha hca).2]
    decide +kernel
  have hob : (run ⟨rowLast, twoCountries⟩ (.into (Sink.ofCapacity none) .entries)
      (Sink.ofCapacity none)).value.outcome = .ok ⟨1, 0, []⟩ := by
    rw [(contents_run hl hd).2, (arms_of_single hb hcb).2]
    decide +kernel
  obtain ⟨-, hjoin, -⟩ := run_of_joined_tables rowFirst rowLast twoCountries hlayout hl hd
  obtain ⟨-, -, hok⟩ := hjoin _ hoa
  obtain ⟨q, hq, hactive, hsuppressed, -⟩ := hok _ hob
  rw [hm] at hactive hsuppressed
  exact ⟨hlayout, hoa, hob, hm, q, hq, Nat.succ.inj hactive, hsuppressed⟩

end Generation
end FlagState
