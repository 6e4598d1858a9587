import FlagState.Allocation
import FlagState.Proofs.Text.Blanks

/-!
Allocation rows as their left end tells: three digits, all blanks that follow, and a country on one line.
The lines that are read as allocations are the rows that can be written, each in one way, and a table tells
those of its lines in order (`tables_read_as_written`).
-/
namespace FlagState.Allocation

open Text (isBlank isDigit)

/-- An allocation as tables publish it, with three digits and a country on one line. -/
structure Clean (a : Allocation) : Prop where
  length_mid : a.mid.length = 3
  digits : a.mid.all isDigit = true
  country_line : '\n' ∉ a.country

instance : DecidablePred Clean := fun _ =>
  decidable_of_iff (_ ∧ _ ∧ _) ⟨fun h => ⟨h.1, h.2.1, h.2.2⟩, fun h => ⟨h.1, h.2, h.3⟩⟩

/-- A row as a line may hold it. All blanks behind the digits are in the gap, those at the end of the line in
the country. -/
structure WrittenRow where
  allocation : Allocation
  clean : allocation.Clean
  gap : Text.Gap
  country_head : ∀ c ∈ allocation.country.head?, isBlank c = false

namespace WrittenRow

def text (r : WrittenRow) : Text := r.allocation.mid ++ (r.gap.chars ++ r.allocation.country)

variable (r : WrittenRow)

theorem ofLine?_text : ofLine? r.text = some r.allocation := by
  obtain ⟨⟨mid, country⟩, ⟨hl, hd, hc⟩, gap, hh⟩ := r
  obtain ⟨x, y, z, rfl⟩ := List.length_eq_three.mp hl
  have hb : Text.afterBlanks? (gap.chars ++ country) = some country :=
    Text.afterBlanks?_eq_some_iff.mpr ⟨gap.chars, rfl, gap.ne_nil, gap.blank, hh⟩
  have hxyz : (isDigit x && isDigit y && isDigit z) = true := by simpa [and_assoc] using hd
  change ofLine? (x :: y :: z :: (gap.chars ++ country)) = _
  rw [ofLine?, if_pos hxyz, hb]
  exact if_neg hc

theorem eq_of_text_eq {r s : WrittenRow} (h : r.text = s.text) : r = s := by
  have ha : r.allocation = s.allocation := by
    have ho := r.ofLine?_text
    rw [h, ofLine?_text] at ho
    exact (Option.some.inj ho).symm
  obtain ⟨a, _, g, _⟩ := r
  obtain ⟨b, _, k, _⟩ := s
  obtain rfl : a = b := ha
  have hg : g.chars = k.chars := List.append_cancel_right (List.append_cancel_left h)
  obtain rfl := Text.Gap.ext hg
  rfl

end WrittenRow

variable {a : Allocation}

theorem exists_writtenRow {line : Text} (h : ofLine? line = some a) :
    ∃ r : WrittenRow, r.allocation = a ∧ r.text = line := by
  unfold ofLine? at h
  split at h
  · next x y z rest =>
    split at h
    · next hd =>
      split at h
      · next country hb =>
        split at h
        · cases h
        · next hc =>
          obtain rfl := Option.some.inj h
          obtain ⟨w, rfl, hne, hw, hh⟩ := Text.afterBlanks?_eq_some_iff.mp hb
          have hxyz : [x, y, z].all isDigit = true := by simpa [and_assoc] using hd
          exact ⟨⟨⟨[x, y, z], country⟩, ⟨rfl, hxyz, hc⟩, ⟨w, hne, hw⟩, hh⟩, rfl, rfl⟩
      · cases h
    · cases h
  · cases h

variable {line : Text}

theorem ofLine?_eq_some_iff :
    ofLine? line = some a ↔ ∃ r : WrittenRow, r.allocation = a ∧ r.text = line := by
  constructor
  · intro h
    exact exists_writtenRow h
  · rintro ⟨r, rfl, rfl⟩
    exact r.ofLine?_text

theorem ofLine?_eq_none_iff : ofLine? line = none ↔ ¬ ∃ r : WrittenRow, r.text = line := by
  rw [Option.eq_none_iff_forall_ne_some]
  constructor
  · rintro h ⟨r, rfl⟩
    exact h r.allocation r.ofLine?_text
  · intro h x hx
    obtain ⟨r, -, hr⟩ := exists_writtenRow hx
    exact h ⟨r, hr⟩

/-- The allocations that lines tell, in order. Lines that are no rows stand between them. -/
inductive Lists : List Text → List Allocation → Prop
  | nil : Lists [] []
  | row (r : WrittenRow) {lines : List Text} {as : List Allocation} :
      Lists lines as → Lists (r.text :: lines) (r.allocation :: as)
  | separator {line : Text} {lines : List Text} {as : List Allocation} :
      (¬ ∃ r : WrittenRow, r.text = line) → Lists lines as → Lists (line :: lines) as

theorem lists_ofLines (lines : List Text) : Lists lines (ofLines lines) := by
  induction lines with
  | nil => exact .nil
  | cons line lines ih =>
    cases hl : ofLine? line with
    | none =>
      rw [ofLines, List.filterMap_cons_none hl]
      exact .separator (ofLine?_eq_none_iff.mp hl) ih
    | some a =>
      obtain ⟨r, rfl, rfl⟩ := exists_writtenRow hl
      rw [ofLines, List.filterMap_cons_some hl]
      exact .row r ih

theorem Lists.ofLines_eq {lines : List Text} {as : List Allocation} (h : Lists lines as) :
    ofLines lines = as := by
  induction h with
  | nil => rfl
  | row r _ ih => rw [ofLines, List.filterMap_cons_some r.ofLine?_text, ← ih, ofLines]
  | separator hn _ ih => rw [ofLines, List.filterMap_cons_none (ofLine?_eq_none_iff.mpr hn), ← ih, ofLines]

/-- A line is an allocation row if it can be written from digits, blanks and a country that begins with no
blank, and then in one way only. A table tells the rows among its lines in order, and nothing else. -/
theorem tables_read_as_written :
    (∀ (line : Text) (a : Allocation),
      ofLine? line = some a ↔ ∃ r : WrittenRow, r.allocation = a ∧ r.text = line) ∧
    (∀ line : Text, ofLine? line = none ↔ ¬ ∃ r : WrittenRow, r.text = line) ∧
    Function.Injective WrittenRow.text ∧
    ∀ (t : Text) (as : List Allocation), (ofTable t).value = as ↔ Lists (Text.lines t) as := by
  refine ⟨?_, ?_, ?_, ?_⟩
  · intro line a
    exact ofLine?_eq_some_iff
  · intro line
    exact ofLine?_eq_none_iff
  · intro r s h
    exact WrittenRow.eq_of_text_eq h
  · intro t as
    have ht : (ofTable t).value = ofLines (Text.lines t) := rfl
    rw [ht]
    constructor
    · rintro rfl
      exact lists_ofLines (Text.lines t)
    · exact Lists.ofLines_eq

/-- Blanks before the country may end lines where no table cuts them. What stands at the end is kept. -/
example : ofLine? "٣٠٦\t \n Korea \r" = some ⟨"٣٠٦", "Korea \r"⟩ := by decide +kernel

end FlagState.Allocation
