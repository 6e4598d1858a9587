import FlagState.Generation
import FlagState.Proofs.Listing

/-!
A run comes down to two writes: what there is to say about misread rows goes to the diagnostics, and
what the answers leave goes to the listing, each in one piece (`run_of_room`, `run_of_full_listing`,
`run_of_full_diagnostics`).
-/
namespace FlagState.Generation

/-- A line for each arm up to an unknown country; the footer if there is none. -/
def body (layout : Layout) : List Answer → Text
  | [] => layout.footer
  | .error _ :: _ => []
  | .ok arm :: answers => arm.text ++ ['\n'] ++ body layout answers

/-- Counts the arms on top of `r`, unless a country is unknown. -/
def conclude (r : Report) : List Answer → Except Failure Report
  | [] => .ok r
  | .error a :: _ => .error (.unmatched a)
  | .ok arm :: answers => conclude (r.add arm) answers

theorem emit_value (l : Listing) (r : Report) (answers : List Answer) :
    (emit l r answers).value =
      match l.write (body l.layout answers) with
      | (l, true) => (l.flush, conclude r answers)
      | (l, false) => (l, .error (.io .full)) := by
  induction answers generalizing l r with
  | nil =>
    simp only [emit, body, conclude, Listing.writeFooter]
    obtain ⟨l', complete⟩ := l.write l.layout.footer
    cases complete <;> rfl
  | cons answer answers ih =>
    cases answer with
    | error a => simp [emit, body, conclude, Listing.write_nil]
    | ok arm =>
      simp only [emit, body, conclude, Listing.writeArm]
      split
      · next l' hw =>
        have hr : (l.write (arm.text ++ ['\n'])).2 = true := congrArg Prod.snd hw
        have hl : l'.layout = l.layout := (congrArg (fun w => w.1.layout) hw).symm
        rw [Listing.write_append_of_room l hr, hw, ← hl]
        exact ih l' (r.add arm)
      · next l' hw =>
        have hr : (l.write (arm.text ++ ['\n'])).2 = false := congrArg Prod.snd hw
        rw [Listing.write_append_of_full l hr, hw]
        rfl

section Run

variable (tables : Tables)

/-- The index of a run and its misread rows. -/
def countriesOf : Country.Index × List Country.Misreading :=
  (Country.Index.ofTable tables.respelt.value.countries).value

def answersOf : List Answer :=
  (Matching.start (countriesOf tables).1 (Allocation.ofTable tables.respelt.value.allocations).value).answers

/-- All that a run has to say about misread rows. -/
def diagnosis : Text := ((countriesOf tables).2.map fun m => m.message ++ ['\n']).flatten

/-- All that a run has to list. -/
def listed (layout : Layout) (functionName : Text) : Text :=
  layout.header functionName ++ body layout (answersOf tables)

/-- How a run ends if all it writes has room. -/
def conclusion : Except Failure Report := conclude ⟨0, 0, (countriesOf tables).2⟩ (answersOf tables)

variable {tables} {l : Listing} {diagnostics : Sink}

theorem countriesOf_eq : countriesOf tables = (Country.Index.ofTable tables.respelt.value.countries).value := rfl

theorem answersOf_eq_answers : answersOf tables =
    (Matching.start (countriesOf tables).1 (Allocation.ofTable tables.respelt.value.allocations).value).answers := rfl

theorem diagnosis_eq_flatten :
    diagnosis tables = ((countriesOf tables).2.map fun m => m.message ++ ['\n']).flatten := rfl

theorem listed_eq_append (layout : Layout) (functionName : Text) :
    listed tables layout functionName = layout.header functionName ++ body layout (answersOf tables) := rfl

theorem value_run :
    (run tables l diagnostics).value =
      match diagnostics.write (diagnosis tables) with
      | (diagnostics, false) => ⟨.error (.io .full), l, diagnostics⟩
      | (diagnostics, true) =>
        match l.write (l.layout.header l.functionName) with
        | (l, false) => ⟨.error (.io .full), l, diagnostics⟩
        | (l, true) =>
          let e := (emit l ⟨0, 0, (countriesOf tables).2⟩ (answersOf tables)).value
          ⟨e.2, e.1, diagnostics⟩ := by
  rw [run, diagnosis_eq_flatten, answersOf_eq_answers, countriesOf_eq]
  -- The rules stay out of what is to be unfolded.
  generalize tables.respelt = respelt
  simp only [diagnose, Sink.writeAll_eq_write, Listing.writeHeader, Noted.value_bind]
  obtain ⟨diagnostics', _ | _⟩ := diagnostics.write _
  · rfl
  · simp only [Noted.value_bind]
    obtain ⟨l', _ | _⟩ := l.write (l.layout.header l.functionName)
    · rfl
    · dsimp only
      generalize emit l' _ _ = e
      obtain ⟨⟨l'', _ | _⟩, notes⟩ := e <;> rfl

-- Unfolding these would set the rules to work on the tables.
attribute [irreducible] countriesOf answersOf diagnosis

theorem run_of_full_diagnostics (hd : (diagnostics.write (diagnosis tables)).2 = false) :
    (run tables l diagnostics).value =
      ⟨.error (.io .full), l, (diagnostics.write (diagnosis tables)).1⟩ := by
  rw [value_run]
  generalize diagnostics.write (diagnosis tables) = w at hd ⊢
  obtain ⟨diagnostics', _ | _⟩ := w
  · rfl
  · cases hd

/-- The header and what follows it are one text. -/
private theorem run_of_room_for_diagnostics (hd : (diagnostics.write (diagnosis tables)).2 = true) :
    (run tables l diagnostics).value =
      match l.write (listed tables l.layout l.functionName) with
      | (l, true) => ⟨conclusion tables, l.flush, (diagnostics.write (diagnosis tables)).1⟩
      | (l, false) => ⟨.error (.io .full), l, (diagnostics.write (diagnosis tables)).1⟩ := by
  rw [value_run]
  generalize diagnostics.write (diagnosis tables) = w at hd ⊢
  obtain ⟨diagnostics', _ | _⟩ := w
  · cases hd
  unfold listed conclusion
  have hl : (l.write (l.layout.header l.functionName)).1.layout = l.layout := rfl
  cases hr : (l.write (l.layout.header l.functionName)).2 with
  | false =>
    rw [l.write_append_of_full hr]
    generalize l.write (l.layout.header l.functionName) = w at hr ⊢
    obtain ⟨l', _ | _⟩ := w
    · rfl
    · cases hr
  | true =>
    rw [l.write_append_of_room hr]
    generalize l.write (l.layout.header l.functionName) = w at hr hl ⊢
    obtain ⟨l', _ | _⟩ := w
    · cases hr
    simp only [emit_value, ← hl]
    obtain ⟨l'', _ | _⟩ := l'.write (body l'.layout (answersOf tables)) <;> rfl

theorem run_of_full_listing (hd : (diagnostics.write (diagnosis tables)).2 = true)
    (hl : (l.write (listed tables l.layout l.functionName)).2 = false) :
    (run tables l diagnostics).value =
      ⟨.error (.io .full), (l.write (listed tables l.layout l.functionName)).1,
        (diagnostics.write (diagnosis tables)).1⟩ := by
  rw [run_of_room_for_diagnostics hd]
  generalize l.write (listed tables l.layout l.functionName) = w at hl ⊢
  obtain ⟨l', _ | _⟩ := w
  · rfl
  · cases hl

theorem run_of_room (hd : (diagnostics.write (diagnosis tables)).2 = true)
    (hl : (l.write (listed tables l.layout l.functionName)).2 = true) :
    (run tables l diagnostics).value =
      ⟨conclusion tables, (l.write (listed tables l.layout l.functionName)).1.flush,
        (diagnostics.write (diagnosis tables)).1⟩ := by
  rw [run_of_room_for_diagnostics hd]
  generalize l.write (listed tables l.layout l.functionName) = w at hl ⊢
  obtain ⟨l', _ | _⟩ := w
  · cases hl
  · rfl

attribute [irreducible] listed conclusion

end Run
end FlagState.Generation
