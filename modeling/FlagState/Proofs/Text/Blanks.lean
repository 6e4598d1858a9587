import Mathlib.Data.List.DropRight
import FlagState.Text.Blank

/-!
Blanks, and the words between them. Blanks at the head of a text can be told from what follows
(`blanks_append_inj`), no word reaches across blanks (`wordCount_append_blanks`), and a reader that drops
blanks drops all that stand there (`afterBlanks?_eq_some_iff`).
-/
namespace FlagState.Text

/-- At least one blank, and nothing else. -/
@[ext]
structure Gap where
  chars : Text
  ne_nil : chars ≠ []
  blank : chars.all isBlank = true

variable {t u : Text}

private theorem skipBlanks_append (h : t.all isBlank = true) (u : Text) :
    skipBlanks (t ++ u) = skipBlanks u :=
  List.dropWhile_append_of_pos (by simpa using h)

theorem skipBlanks_eq_self (h : ∀ c ∈ t.head?, isBlank c = false) : skipBlanks t = t := by
  cases t with
  | nil => rfl
  | cons c t =>
    have hc : ¬ isBlank c = true := by simpa using h c rfl
    exact List.dropWhile_cons_of_neg hc

private theorem head?_skipBlanks (t : Text) : ∀ c ∈ (skipBlanks t).head?, isBlank c = false := by
  intro c hc
  have hm := List.head?_dropWhile_not isBlank t
  rw [Option.mem_def] at hc
  unfold skipBlanks at hc
  simpa [hc] using hm

/-- Blanks end where the first other character stands, so that they can be cut off in one way only. -/
theorem blanks_append_inj {w x : Text} (hw : w.all isBlank = true) (hx : x.all isBlank = true)
    (ht : ∀ c ∈ t.head?, isBlank c = false) (hu : ∀ c ∈ u.head?, isBlank c = false)
    (h : w ++ t = x ++ u) : w = x ∧ t = u := by
  have hs := congrArg skipBlanks h
  rw [skipBlanks_append hw, skipBlanks_append hx, skipBlanks_eq_self ht, skipBlanks_eq_self hu] at hs
  subst hs
  exact ⟨List.append_cancel_right h, rfl⟩

theorem Gap.append_inj {g h : Gap} (ht : ∀ c ∈ t.head?, isBlank c = false)
    (hu : ∀ c ∈ u.head?, isBlank c = false) (he : g.chars ++ t = h.chars ++ u) : g = h ∧ t = u := by
  obtain ⟨hc, htu⟩ := blanks_append_inj g.blank h.blank ht hu he
  exact ⟨Gap.ext hc, htu⟩

theorem afterBlanks?_eq_some_iff :
    afterBlanks? t = some u ↔
      ∃ w, t = w ++ u ∧ w ≠ [] ∧ w.all isBlank = true ∧ ∀ c ∈ u.head?, isBlank c = false := by
  constructor
  · intro h
    match t, h with
    | c :: t, h =>
      rw [afterBlanks?] at h
      split at h
      · next hc =>
        obtain rfl := Option.some.inj h
        refine ⟨c :: t.takeWhile isBlank, ?_, List.cons_ne_nil _ _, ?_, head?_skipBlanks t⟩
        · rw [List.cons_append, skipBlanks, List.takeWhile_append_dropWhile]
        · rw [List.all_cons, hc, List.all_takeWhile, Bool.and_self]
      · cases h
  · rintro ⟨w, rfl, hne, hw, hu⟩
    cases w with
    | nil => exact absurd rfl hne
    | cons c w =>
      rw [List.all_cons, Bool.and_eq_true] at hw
      rw [List.cons_append, afterBlanks?, if_pos hw.1, skipBlanks_append hw.2, skipBlanks_eq_self hu]

/-- Blanks may be put before a text that begins with one. -/
theorem afterBlanks?_append (h : t.all isBlank = true) (hu : afterBlanks? u ≠ none) :
    afterBlanks? (t ++ u) = afterBlanks? u := by
  obtain ⟨v, hv⟩ := Option.ne_none_iff_exists'.mp hu
  obtain ⟨w, rfl, hne, hw, hh⟩ := afterBlanks?_eq_some_iff.mp hv
  rw [hv, afterBlanks?_eq_some_iff]
  refine ⟨t ++ w, (List.append_assoc t w v).symm, List.append_ne_nil_of_right_ne_nil t hne, ?_, hh⟩
  rw [List.all_append, h, hw, Bool.and_self]

/-- How many words begin in a text, a word being a run of characters that are no blanks. A text that is
read from the inside of a word begins none with its first characters. -/
def wordCount (inside : Bool) : Text → Nat
  | [] => 0
  | c :: t =>
    if isBlank c then wordCount false t
    else (if inside then 0 else 1) + wordCount true t

theorem wordCount_blanks_append (inside : Bool) {w : Text} (hne : w ≠ []) (hw : w.all isBlank = true)
    (u : Text) : wordCount inside (w ++ u) = wordCount false u := by
  induction w generalizing inside with
  | nil => exact absurd rfl hne
  | cons c w ih =>
    rw [List.all_cons, Bool.and_eq_true] at hw
    rw [List.cons_append, wordCount, if_pos hw.1]
    by_cases hn : w = []
    · rw [hn, List.nil_append]
    · exact ih false hn hw.2

/-- No word reaches across blanks. -/
theorem wordCount_append_blanks (inside : Bool) (t : Text) {w : Text} (hne : w ≠ [])
    (hw : w.all isBlank = true) (u : Text) :
    wordCount inside (t ++ (w ++ u)) = wordCount inside t + wordCount false u := by
  induction t generalizing inside with
  | nil => rw [List.nil_append, wordCount_blanks_append inside hne hw, wordCount, Nat.zero_add]
  | cons c t ih =>
    rw [List.cons_append, wordCount, wordCount]
    split
    · exact ih false
    · rw [ih true, Nat.add_assoc]

theorem wordCount_of_blanks (inside : Bool) {w : Text} (hw : w.all isBlank = true) :
    wordCount inside w = 0 := by
  by_cases hn : w = []
  · rw [hn, wordCount]
  · have hs := wordCount_blanks_append inside hn hw []
    rwa [List.append_nil] at hs

theorem all_isBlank_of_wordCount {t : Text} (h : wordCount false t = 0) : t.all isBlank = true := by
  induction t with
  | nil => rfl
  | cons c t ih =>
    rw [wordCount] at h
    split at h
    · next hc => rw [List.all_cons, hc, ih h, Bool.and_self]
    · rw [if_neg Bool.false_ne_true] at h
      omega

/-- A word at the head of a text, and what follows it. -/
theorem wordCount_append_word {v : Text} (hne : v ≠ []) (hv : ∀ c ∈ v, isBlank c = false) (u : Text) :
    wordCount false (v ++ u) = 1 + wordCount true u := by
  have hin {v : Text} (hv : ∀ c ∈ v, isBlank c = false) : wordCount true (v ++ u) = wordCount true u := by
    induction v with
    | nil => rfl
    | cons c v ih =>
      have hc := hv c List.mem_cons_self
      have hi := ih fun d hd => hv d (List.mem_cons_of_mem c hd)
      simp [wordCount, hc, hi]
  cases v with
  | nil => exact absurd rfl hne
  | cons c v =>
    have hc := hv c List.mem_cons_self
    have hi := hin fun d hd => hv d (List.mem_cons_of_mem c hd)
    simp [wordCount, hc, hi]

theorem rdropWhile_cons {c : Char} (h : (c :: t).all isBlank ≠ true) :
    (c :: t).rdropWhile isBlank = c :: t.rdropWhile isBlank := by
  unfold List.rdropWhile
  rw [List.reverse_cons, List.dropWhile_append]
  split
  · next he =>
    rw [List.isEmpty_iff] at he
    have ht : t.all isBlank = true := by simpa using List.dropWhile_eq_nil_iff.mp he
    have hc : ¬ isBlank c = true := by simpa [ht] using h
    rw [he, List.dropWhile_cons_of_neg hc]
    rfl
  · rw [List.reverse_append]
    rfl

end FlagState.Text
