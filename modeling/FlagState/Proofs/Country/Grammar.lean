import FlagState.Country
import FlagState.Proofs.Text.Blanks

/-!
Country rows as their right end tells. The codes are three words, so that they can follow a name in one way
only, whatever the name holds (`withCodes?_append`), and the name is all before them but for the blanks
at its end (`ofLine?_append`, `ofLine?_eq_some`). The lines that are read as countries are the rows that can
be written, each in one way (`rows_read_as_written`).
-/
namespace FlagState.Country

open Text (isBlank afterBlanks? wordCount)

section Readers

variable {t rest : Text}

theorem isBlank_of_isLetter {c : Char} (h : isLetter c = true) : isBlank c = false := by
  simp only [isLetter, Bool.and_eq_true, decide_eq_true_eq] at h
  have hl : 0x41 ≤ c.toNat := Char.le_def.1 h.1
  have hr : c.toNat ≤ 0x5A := Char.le_def.1 h.2
  simp only [isBlank, Text.blankRanges, List.any_cons, List.any_nil, Bool.or_false, Bool.or_eq_false_iff,
    Bool.and_eq_false_iff, decide_eq_false_iff_not]
  omega

theorem isBlank_of_isNumeral {c : Char} (h : isNumeral c = true) : isBlank c = false := by
  simp only [isNumeral, Bool.and_eq_true, decide_eq_true_eq] at h
  have hl : 0x30 ≤ c.toNat := Char.le_def.1 h.1
  have hr : c.toNat ≤ 0x39 := Char.le_def.1 h.2
  simp only [isBlank, Text.blankRanges, List.any_cons, List.any_nil, Bool.or_false, Bool.or_eq_false_iff,
    Bool.and_eq_false_iff, decide_eq_false_iff_not]
  omega

theorem letters?_eq_some_iff {n : Nat} {letters : Text} :
    letters? n t = some (letters, rest) ↔
      t = letters ++ rest ∧ letters.length = n ∧ letters.all isLetter = true := by
  induction n generalizing t letters with
  | zero =>
    rw [letters?, Option.some.injEq, Prod.mk.injEq, List.length_eq_zero_iff]
    constructor
    · rintro ⟨rfl, rfl⟩
      exact ⟨rfl, rfl, rfl⟩
    · rintro ⟨rfl, rfl, -⟩
      exact ⟨rfl, rfl⟩
  | succ n ih =>
    constructor
    · intro h
      cases t with
      | nil => cases h
      | cons c t =>
        unfold letters? at h
        split at h
        · next hc =>
          obtain ⟨⟨ls, r⟩, hls, he⟩ := Option.map_eq_some_iff.mp h
          obtain ⟨rfl, rfl⟩ := Prod.mk.inj he
          obtain ⟨rfl, hn, ha⟩ := ih.mp hls
          refine ⟨rfl, congrArg Nat.succ hn, ?_⟩
          rw [List.all_cons, hc, ha, Bool.and_self]
        · cases h
    · rintro ⟨rfl, hn, ha⟩
      cases letters with
      | nil => cases hn
      | cons c letters =>
        rw [List.all_cons, Bool.and_eq_true] at ha
        have hi := ih.mpr ⟨rfl, Nat.succ.inj hn, ha.2⟩
        rw [List.cons_append, letters?, if_pos ha.1, hi]
        rfl

theorem number?_eq_some_iff {digits : Text} :
    number? t = some digits ↔ ∃ w, t = digits ++ w ∧ digits ≠ [] ∧ digits.all isNumeral = true ∧
      w.all isBlank = true := by
  constructor
  · intro h
    unfold number? at h
    dsimp only at h
    split at h
    · cases h
    · next hne =>
      split at h
      · next hw =>
        obtain rfl := Option.some.inj h
        refine ⟨_, List.takeWhile_append_dropWhile.symm, by simpa using hne, List.all_takeWhile, hw⟩
      · cases h
  · rintro ⟨w, rfl, hne, hd, hw⟩
    have hh : w = [] ∨ ∃ c v, w = c :: v ∧ ¬ isNumeral c = true := by
      cases w with
      | nil => exact .inl rfl
      | cons c v =>
        refine .inr ⟨c, v, rfl, fun hc => ?_⟩
        rw [List.all_cons, isBlank_of_isNumeral hc] at hw
        cases hw
    have hd' : ∀ c ∈ digits, isNumeral c = true := by simpa using hd
    have ht : (digits ++ w).takeWhile isNumeral = digits := by
      rw [List.takeWhile_append_of_pos hd']
      obtain rfl | ⟨c, v, rfl, hc⟩ := hh
      · rw [List.takeWhile_nil, List.append_nil]
      · rw [List.takeWhile_cons_of_neg hc, List.append_nil]
    have hr : (digits ++ w).dropWhile isNumeral = w := by
      rw [List.dropWhile_append_of_pos hd']
      obtain rfl | ⟨c, v, rfl, hc⟩ := hh
      · rfl
      · exact List.dropWhile_cons_of_neg hc
    unfold number?
    dsimp only
    rw [ht, hr, if_neg (by simpa using hne), if_pos hw]

end Readers

private theorem head?_append {p : Char → Bool} (hp : ∀ {c}, p c = true → isBlank c = false) {u : Text}
    (hne : u ≠ []) (hu : u.all p = true) (rest : Text) : ∀ d ∈ (u ++ rest).head?, isBlank d = false := by
  intro d hd
  match u, hne with
  | c :: u, _ =>
    obtain rfl : c = d := Option.some.inj hd
    rw [List.all_cons, Bool.and_eq_true] at hu
    exact hp hu.1

/-- Two letters, three letters and a number. -/
structure HasCodes (c : Country) : Prop where
  alpha2 : c.alpha2.length = 2 ∧ c.alpha2.all isLetter = true
  alpha3 : c.alpha3.length = 3 ∧ c.alpha3.all isLetter = true
  numeric : c.numeric ≠ [] ∧ c.numeric.all isNumeral = true

/-- What may stand behind the name of a country: blanks and a code, three times, and more blanks. -/
structure Coded (c : Country) (t : Text) : Prop extends HasCodes c where
  spaced : ∃ v w x y : Text,
    t = v ++ (c.alpha2 ++ (w ++ (c.alpha3 ++ (x ++ (c.numeric ++ y))))) ∧ v ≠ [] ∧ w ≠ [] ∧ x ≠ [] ∧
      v.all isBlank = true ∧ w.all isBlank = true ∧ x.all isBlank = true ∧ y.all isBlank = true

variable {c : Country} {t : Text}

theorem withCodes?_eq_some_iff {name : Text} :
    withCodes? name t = some c ↔ c.name = name ∧ c.Coded t := by
  constructor
  · intro h
    simp only [withCodes?, Option.bind_eq_bind, Option.bind_eq_some_iff, Option.pure_def,
      Option.some.injEq] at h
    obtain ⟨_, h₁, ⟨alpha2, _⟩, h₂, _, h₃, ⟨alpha3, _⟩, h₄, _, h₅, numeric, h₆, rfl⟩ := h
    obtain ⟨v, rfl, hv₀, hv, -⟩ := Text.afterBlanks?_eq_some_iff.mp h₁
    obtain ⟨rfl, ha₂⟩ := letters?_eq_some_iff.mp h₂
    obtain ⟨w, rfl, hw₀, hw, -⟩ := Text.afterBlanks?_eq_some_iff.mp h₃
    obtain ⟨rfl, ha₃⟩ := letters?_eq_some_iff.mp h₄
    obtain ⟨x, rfl, hx₀, hx, -⟩ := Text.afterBlanks?_eq_some_iff.mp h₅
    obtain ⟨y, rfl, hn₀, hn, hy⟩ := number?_eq_some_iff.mp h₆
    exact ⟨rfl, ⟨ha₂, ha₃, hn₀, hn⟩, v, w, x, y, rfl, hv₀, hw₀, hx₀, hv, hw, hx, hy⟩
  · rintro ⟨rfl, ⟨ha₂, ha₃, hn₀, hn⟩, v, w, x, y, rfl, hv₀, hw₀, hx₀, hv, hw, hx, hy⟩
    have hletters {n : Nat} {u : Text} (h : u.length = n + 1 ∧ u.all isLetter = true) (rest : Text) :=
      head?_append isBlank_of_isLetter (List.ne_nil_of_length_eq_add_one h.1) h.2 rest
    have hnumber := head?_append isBlank_of_isNumeral hn₀ hn y
    simp only [withCodes?, Option.bind_eq_bind, Option.bind_eq_some_iff, Option.pure_def,
      Option.some.injEq]
    exact ⟨_, Text.afterBlanks?_eq_some_iff.mpr ⟨v, rfl, hv₀, hv, hletters ha₂ _⟩,
      _, letters?_eq_some_iff.mpr ⟨rfl, ha₂⟩, _, Text.afterBlanks?_eq_some_iff.mpr ⟨w, rfl, hw₀, hw, hletters ha₃ _⟩,
      _, letters?_eq_some_iff.mpr ⟨rfl, ha₃⟩, _, Text.afterBlanks?_eq_some_iff.mpr ⟨x, rfl, hx₀, hx, hnumber⟩,
      _, number?_eq_some_iff.mpr ⟨y, rfl, hn₀, hn, hy⟩, rfl⟩

namespace Coded

variable (h : c.Coded t)

include h

theorem ne_nil : t ≠ [] := by
  obtain ⟨v, w, x, y, rfl, hv₀, -⟩ := h.spaced
  exact List.append_ne_nil_of_left_ne_nil hv₀ _

/-- The codes are three words, also behind another text. -/
private theorem wordCount_append (s : Text) : wordCount false (s ++ t) = wordCount false s + 3 := by
  obtain ⟨v, w, x, y, rfl, hv₀, hw₀, hx₀, hv, hw, hx, hy⟩ := h.spaced
  have hletters {ls : Text} (ha : ls.all isLetter = true) : ∀ d ∈ ls, isBlank d = false :=
    fun d hd => isBlank_of_isLetter (List.all_eq_true.mp ha d hd)
  have hnumber : ∀ d ∈ c.numeric, isBlank d = false :=
    fun d hd => isBlank_of_isNumeral (List.all_eq_true.mp h.numeric.2 d hd)
  have ha₂ : c.alpha2 ≠ [] := List.ne_nil_of_length_pos (by rw [h.alpha2.1]; omega)
  have ha₃ : c.alpha3 ≠ [] := List.ne_nil_of_length_pos (by rw [h.alpha3.1]; omega)
  rw [Text.wordCount_append_blanks false s hv₀ hv, Text.wordCount_append_word ha₂ (hletters h.alpha2.2),
    Text.wordCount_blanks_append true hw₀ hw, Text.wordCount_append_word ha₃ (hletters h.alpha3.2), Text.wordCount_blanks_append true hx₀ hx,
    Text.wordCount_append_word h.numeric.1 hnumber, Text.wordCount_of_blanks true hy]

/-- Codes hold nothing but blanks, letters and digits. -/
theorem not_mem {d : Char} (hb : isBlank d = false) (hl : isLetter d = false) (hn : isNumeral d = false) :
    d ∉ t := by
  obtain ⟨v, w, x, y, rfl, -, -, -, hv, hw, hx, hy⟩ := h.spaced
  have hnot {p : Char → Bool} {u : Text} (hu : u.all p = true) (hd : p d = false) : d ∉ u := by
    intro hm
    have hp := List.all_eq_true.mp hu d hm
    rw [hd] at hp
    cases hp
  simp only [List.mem_append, not_or]
  exact ⟨hnot hv hb, hnot h.alpha2.2 hl, hnot hw hb, hnot h.alpha3.2 hl, hnot hx hb,
    hnot h.numeric.2 hn, hnot hy hb⟩

end Coded

/-- Behind a name that is not blank the same codes would be words too many. -/
theorem withCodes?_append (h : withCodes? [] t = some c) (s : Text) :
    withCodes? [] (s ++ t) = if s.all isBlank then some c else none := by
  split
  · next hs =>
    have hn : afterBlanks? t ≠ none := by
      intro hn
      simp [withCodes?, hn] at h
    have ha := Text.afterBlanks?_append hs hn
    rw [← h]
    unfold withCodes?
    rw [ha]
  · next hs =>
    have ht := (withCodes?_eq_some_iff.mp h).2.wordCount_append
    cases hc : withCodes? [] (s ++ t) with
    | none => rfl
    | some d =>
      have hd : wordCount false (s ++ t) = 3 := (withCodes?_eq_some_iff.mp hc).2.wordCount_append []
      rw [ht s] at hd
      exact absurd (Text.all_isBlank_of_wordCount (by omega)) hs

/-- The shortest name that leaves the codes is the whole text before them without blanks at its end. -/
theorem ofLine?_append (h : withCodes? [] t = some c) {s : Text} (hs : '\n' ∉ s) :
    ofLine? (s ++ t) = some { c with name := s.rdropWhile isBlank } := by
  have hc : c.name = [] := (withCodes?_eq_some_iff.mp h).1
  induction s with
  | nil =>
    have ht := (withCodes?_eq_some_iff.mp h).2.ne_nil
    obtain ⟨d, t, rfl⟩ := List.exists_cons_of_ne_nil ht
    rw [List.nil_append, ofLine?, h, List.rdropWhile_nil, ← hc]
  | cons d s ih =>
    rw [List.mem_cons, not_or] at hs
    have hw := withCodes?_append h (d :: s)
    rw [List.cons_append] at hw
    rw [List.cons_append, ofLine?, hw]
    by_cases ha : (d :: s).all isBlank = true
    · have hr : (d :: s).rdropWhile isBlank = [] := List.rdropWhile_eq_nil_iff.mpr (by simpa using ha)
      rw [if_pos ha, hr, ← hc]
    · rw [if_neg ha, ih hs.2, Text.rdropWhile_cons ha]
      simp [Ne.symm hs.1]

theorem ofLine?_eq_some {line : Text} (h : ofLine? line = some c) :
    ∃ t, line = c.name ++ t ∧ withCodes? [] t = some { c with name := [] } ∧ '\n' ∉ c.name := by
  induction line generalizing c with
  | nil => cases h
  | cons d line ih =>
    unfold ofLine? at h
    split at h
    · next e he =>
      obtain rfl := Option.some.inj h
      have hn : e.name = [] := (withCodes?_eq_some_iff.mp he).1
      refine ⟨d :: line, ?_, ?_, ?_⟩
      · rw [hn, List.nil_append]
      · rw [he, ← hn]
      · rw [hn]
        exact List.not_mem_nil
    · split at h
      · cases h
      · next hd =>
        obtain ⟨e, he, rfl⟩ := Option.map_eq_some_iff.mp h
        obtain ⟨t, rfl, ht, hn⟩ := ih he
        refine ⟨t, rfl, ht, ?_⟩
        rw [List.mem_cons, not_or]
        exact ⟨Ne.symm hd, hn⟩

/-- A country as its published row can tell: the name is on one line and ends with no blank. -/
structure Clean (c : Country) : Prop extends HasCodes c where
  name_line : '\n' ∉ c.name
  name_end : c.name.rdropWhile isBlank = c.name

instance (c : Country) : Decidable c.Clean :=
  decidable_of_iff
    ((c.alpha2.length = 2 ∧ c.alpha2.all isLetter = true) ∧
      (c.alpha3.length = 3 ∧ c.alpha3.all isLetter = true) ∧
      (c.numeric ≠ [] ∧ c.numeric.all isNumeral = true) ∧ '\n' ∉ c.name ∧
      c.name.rdropWhile isBlank = c.name)
    ⟨fun ⟨h₂, h₃, hn, hl, he⟩ => ⟨⟨h₂, h₃, hn⟩, hl, he⟩,
      fun h => ⟨h.alpha2, h.alpha3, h.numeric, h.name_line, h.name_end⟩⟩

/-- A row as a line may hold it: the fields of a country, blanks between them and perhaps at the end. -/
structure WrittenRow where
  country : Country
  clean : country.Clean
  beforeAlpha2 : Text.Gap
  beforeAlpha3 : Text.Gap
  beforeNumeric : Text.Gap
  atEnd : Text
  atEnd_blank : atEnd.all isBlank = true

namespace WrittenRow

/-- All that stands behind the name. -/
def codes (r : WrittenRow) : Text :=
  r.beforeAlpha2.chars ++ (r.country.alpha2 ++ (r.beforeAlpha3.chars ++ (r.country.alpha3 ++
    (r.beforeNumeric.chars ++ (r.country.numeric ++ r.atEnd)))))

def text (r : WrittenRow) : Text := r.country.name ++ r.codes

variable (r : WrittenRow)

theorem ofLine?_text : ofLine? r.text = some r.country := by
  have hc : ({ r.country with name := [] } : Country).Coded r.codes :=
    ⟨⟨r.clean.alpha2, r.clean.alpha3, r.clean.numeric⟩, r.beforeAlpha2.chars, r.beforeAlpha3.chars,
      r.beforeNumeric.chars, r.atEnd, rfl, r.beforeAlpha2.ne_nil, r.beforeAlpha3.ne_nil,
      r.beforeNumeric.ne_nil, r.beforeAlpha2.blank, r.beforeAlpha3.blank, r.beforeNumeric.blank, r.atEnd_blank⟩
  rw [text, ofLine?_append (withCodes?_eq_some_iff.mpr ⟨rfl, hc⟩) r.clean.name_line, r.clean.name_end]

/-- The blanks are told by the codes between them. -/
theorem eq_of_codes_eq {r s : WrittenRow} (hc : r.country = s.country) (h : r.codes = s.codes) : r = s := by
  obtain ⟨c, hclean, v, w, x, y, _⟩ := r
  obtain ⟨d, _, v', w', x', y', _⟩ := s
  obtain rfl : c = d := hc
  have hletters {n : Nat} {u : Text} (hu : u.length = n + 1 ∧ u.all isLetter = true) (rest : Text) :=
    head?_append isBlank_of_isLetter (List.ne_nil_of_length_eq_add_one hu.1) hu.2 rest
  have hnumber := head?_append isBlank_of_isNumeral hclean.numeric.1 hclean.numeric.2
  obtain ⟨rfl, h₁⟩ := Text.Gap.append_inj (hletters hclean.alpha2 _) (hletters hclean.alpha2 _) h
  obtain ⟨rfl, h₂⟩ := Text.Gap.append_inj (hletters hclean.alpha3 _) (hletters hclean.alpha3 _)
    (List.append_cancel_left h₁)
  obtain ⟨rfl, h₃⟩ := Text.Gap.append_inj (hnumber _) (hnumber _) (List.append_cancel_left h₂)
  obtain rfl := List.append_cancel_left h₃
  rfl

theorem eq_of_text_eq {r s : WrittenRow} (h : r.text = s.text) : r = s := by
  have hc : r.country = s.country := by
    have ho := r.ofLine?_text
    rw [h, ofLine?_text] at ho
    exact (Option.some.inj ho).symm
  refine eq_of_codes_eq hc ?_
  rw [text, text, hc] at h
  exact List.append_cancel_left h

end WrittenRow

theorem exists_writtenRow {line : Text} (h : ofLine? line = some c) :
    ∃ r : WrittenRow, r.country = c ∧ r.text = line := by
  obtain ⟨t, rfl, ht, hn⟩ := ofLine?_eq_some h
  have hc := (withCodes?_eq_some_iff.mp ht).2
  have he : c.name.rdropWhile isBlank = c.name := by
    have ha := ofLine?_append ht hn
    rw [h] at ha
    exact congrArg Country.name (Option.some.inj ha).symm
  obtain ⟨v, w, x, y, rfl, hv₀, hw₀, hx₀, hv, hw, hx, hy⟩ := hc.spaced
  exact ⟨⟨c, ⟨⟨hc.alpha2, hc.alpha3, hc.numeric⟩, hn, he⟩, ⟨v, hv₀, hv⟩, ⟨w, hw₀, hw⟩, ⟨x, hx₀, hx⟩, y, hy⟩,
    rfl, rfl⟩

theorem ofLine?_row (h : c.Clean) : ofLine? c.row = some c := by
  let gap : Text.Gap := ⟨" \t", by decide, by decide⟩
  have hr : c.row = (WrittenRow.mk c h gap gap gap [] rfl).text := by
    simp only [row, WrittenRow.text, WrittenRow.codes, gap, List.append_assoc, List.append_nil]
  rw [hr, WrittenRow.ofLine?_text]

variable {line : Text}

theorem ofLine?_eq_some_iff :
    ofLine? line = some c ↔ ∃ r : WrittenRow, r.country = c ∧ r.text = line := by
  constructor
  · intro h
    exact exists_writtenRow h
  · rintro ⟨r, rfl, rfl⟩
    exact r.ofLine?_text

theorem ofLine?_eq_none_iff : ofLine? line = none ↔ ¬ ∃ r : WrittenRow, r.text = line := by
  rw [Option.eq_none_iff_forall_ne_some]
  constructor
  · rintro h ⟨r, rfl⟩
    exact h r.country r.ofLine?_text
  · intro h x hx
    obtain ⟨r, -, hr⟩ := exists_writtenRow hx
    exact h ⟨r, hr⟩

namespace Row

theorem ofLine_eq_blank : ofLine line = .blank ↔ line = [] := by
  unfold ofLine
  cases line with
  | nil => simp
  | cons d line => cases ofLine? (d :: line) <;> simp

theorem ofLine_eq_country : ofLine line = .country c ↔ ofLine? line = some c := by
  unfold ofLine
  cases line with
  | nil => simp [ofLine?]
  | cons d line => cases ofLine? (d :: line) <;> simp

theorem ofLine_eq_malformed : ofLine line = .malformed ↔ line ≠ [] ∧ ofLine? line = none := by
  unfold ofLine
  cases line with
  | nil => simp
  | cons d line => cases ofLine? (d :: line) <;> simp

end Row

/-- A line is a country row if it can be written from clean fields and blanks, and then in one way only, so
that the fields are read back whatever the name holds. Other lines are malformed, but for the empty one. -/
theorem rows_read_as_written :
    (∀ line : Text, Row.ofLine line = .blank ↔ line = []) ∧
    (∀ (line : Text) (c : Country),
      Row.ofLine line = .country c ↔ ∃ r : WrittenRow, r.country = c ∧ r.text = line) ∧
    (∀ line : Text, Row.ofLine line = .malformed ↔ line ≠ [] ∧ ¬ ∃ r : WrittenRow, r.text = line) ∧
    Function.Injective WrittenRow.text ∧
    ∀ r : WrittenRow, Row.ofLine r.text = .country r.country := by
  refine ⟨?_, ?_, ?_, ?_, ?_⟩
  · intro line
    exact Row.ofLine_eq_blank
  · intro line c
    exact Row.ofLine_eq_country.trans ofLine?_eq_some_iff
  · intro line
    rw [Row.ofLine_eq_malformed, ofLine?_eq_none_iff]
  · intro r s h
    exact WrittenRow.eq_of_text_eq h
  · intro r
    exact Row.ofLine_eq_country.mpr r.ofLine?_text

/-- The last three words are the codes. A line feed may stand between them, but not in the name. -/
example :
    Row.ofLine " A AA AAA 1\n BB\u2003BBB 02\n" = .country ⟨" A AA AAA 1", "BB", "BBB", "02"⟩ ∧
      Row.ofLine "A\nB BB BBB 02" = .malformed := by
  decide +kernel

end FlagState.Country
