import Mathlib.Data.List.Infix
import FlagState.Proofs.Text.Barrier

/-!
A replacement as a scan: it passes over single characters and over whole occurrences of the old text, and
over nothing else (`scan_induction`). Where the old and the new text cannot lie across each other
(`Apart`), a second scan finds only what the first one left on purpose
(`replaceUnlessWithin_replaceUnlessWithin`).
-/
namespace FlagState.Text

variable {old new : Text}

theorem prefix_append_cases {u a b : Text} (h : u <+: a ++ b) :
    u <+: a ∨ ∃ w, u = a ++ w ∧ w <+: b := by
  obtain hu | ⟨w, rfl⟩ := List.prefix_or_prefix_of_prefix h (List.prefix_append a b)
  · exact .inl hu
  · exact .inr ⟨w, rfl, (List.prefix_append_right_inj a).mp h⟩

private theorem reverse_prefix_append {u behind : Text} (h : u.reverse <+: behind) (x : Text) :
    (u ++ x).reverse <+: x.reverse ++ behind := by
  rw [List.reverse_append]
  exact (List.prefix_append_right_inj _).mpr h

section Scan

/-- Follows the places that a scan for `old` comes to: a character at which `old` does not begin is passed
over by itself, an occurrence of `old` as a whole. -/
@[elab_as_elim]
theorem scan_induction (hne : old ≠ []) {motive : Text → Prop} (nil : motive [])
    (step : ∀ c t, ¬ old <+: c :: t → motive t → motive (c :: t))
    (hit : ∀ t, motive t → motive (old ++ t)) (t : Text) : motive t := by
  match t with
  | [] => exact nil
  | c :: u =>
    by_cases h : old <+: c :: u
    · obtain ⟨v, hv⟩ := h
      have hlt : v.length ≤ u.length := by
        have hl := congrArg List.length hv
        have := List.length_pos_iff.mpr hne
        rw [List.length_append, List.length_cons] at hl
        omega
      rw [← hv]
      exact hit v (scan_induction hne nil step hit v)
    · exact step c u h (scan_induction hne nil step hit u)
termination_by t.length

/-- A replacement under way, with nothing to pass over. -/
def replaceFrom (old new behind t : Text) : Text :=
  substituteFrom (findUnlessWithin old new) 0 behind t

theorem replaceUnlessWithin_eq (hne : old ≠ []) (new t : Text) :
    replaceUnlessWithin old new t = replaceFrom old new [] t := by
  have he : old.isEmpty = false := by simpa using hne
  rw [replaceUnlessWithin, he]
  rfl

theorem replaceFrom_cons {c : Char} {t : Text} (h : ¬ old <+: c :: t) (behind : Text) :
    replaceFrom old new behind (c :: t) = c :: replaceFrom old new (c :: behind) t := by
  have hn : findUnlessWithin old new behind (c :: t) = none := by
    rw [findUnlessWithin, if_neg (by rwa [List.isPrefixOf_iff_prefix])]
  exact substituteFrom_of_none hn

theorem replaceFrom_append (hne : old ≠ []) (behind t : Text) :
    replaceFrom old new behind (old ++ t) =
      (if liesWithin old new behind (old ++ t) then old else new) ++
        replaceFrom old new (old.reverse ++ behind) t := by
  obtain ⟨c, rest, rfl⟩ := List.exists_cons_of_ne_nil hne
  have hp : (c :: rest).isPrefixOf (c :: (rest ++ t)) = true :=
    List.isPrefixOf_iff_prefix.mpr (List.prefix_append (c :: rest) t)
  have hf : findUnlessWithin (c :: rest) new behind (c :: (rest ++ t)) =
      some ⟨rest.length, if liesWithin (c :: rest) new behind (c :: (rest ++ t)) then c :: rest else new⟩ :=
    if_pos hp
  rw [replaceFrom, List.cons_append, substituteFrom_of_hit hf, substituteFrom_skip, List.take_left,
    List.drop_left, List.reverse_cons, List.append_assoc]
  rfl

theorem replaceFrom_eq_self {t : Text} (h : ¬ old <:+: t) (new behind : Text) :
    replaceFrom old new behind t = t := by
  have hne : old ≠ [] := by
    rintro rfl
    exact h List.nil_infix
  induction t using scan_induction hne generalizing behind with
  | nil => rfl
  | step c t hc ih => rw [replaceFrom_cons hc, ih fun hi => h (hi.trans (List.suffix_cons c t).isInfix)]
  | hit t => exact absurd (List.prefix_append old t).isInfix h

/-- A replacement leaves a text alone in which the old text does not occur. -/
theorem replaceUnlessWithin_eq_self {t : Text} (h : ¬ old <:+: t) (new : Text) :
    replaceUnlessWithin old new t = t := by
  have hne : old ≠ [] := by
    rintro rfl
    exact h List.nil_infix
  rw [replaceUnlessWithin_eq hne, replaceFrom_eq_self h]

/-- What stands at the head only is cut off. -/
theorem replaceUnlessWithin_nil_append (hne : old ≠ []) {t : Text} (h : ¬ old <:+: t) :
    replaceUnlessWithin old [] (old ++ t) = t := by
  have hl : liesWithin old [] [] (old ++ t) = false := rfl
  rw [replaceUnlessWithin_eq hne, replaceFrom_append hne, hl, replaceFrom_eq_self h]
  rfl

end Scan

section Occurrences

theorem occurrencesFrom_cons {c : Char} {t : Text} (h : ¬ old <+: c :: t) (pos : Nat) :
    occurrencesFrom old 0 pos (c :: t) = occurrencesFrom old 0 (pos + 1) t := by
  rw [occurrencesFrom, if_neg (by rwa [List.isPrefixOf_iff_prefix])]

theorem occurrencesFrom_skip (n pos : Nat) (t : Text) :
    occurrencesFrom old n pos t = occurrencesFrom old 0 (pos + n) (t.drop n) := by
  induction t generalizing n pos with
  | nil => simp [occurrencesFrom]
  | cons c t ih =>
    cases n with
    | zero => rfl
    | succ n => rw [occurrencesFrom, ih, List.drop_succ_cons, Nat.add_right_comm, Nat.add_assoc]

theorem occurrencesFrom_append (hne : old ≠ []) (pos : Nat) (t : Text) :
    occurrencesFrom old 0 pos (old ++ t) = pos :: occurrencesFrom old 0 (pos + old.length) t := by
  obtain ⟨c, rest, rfl⟩ := List.exists_cons_of_ne_nil hne
  have hp : (c :: rest).isPrefixOf (c :: (rest ++ t)) = true :=
    List.isPrefixOf_iff_prefix.mpr (List.prefix_append (c :: rest) t)
  rw [List.cons_append, occurrencesFrom, if_pos hp, occurrencesFrom_skip, List.length_cons,
    Nat.add_sub_cancel, List.drop_left, Nat.add_assoc, Nat.add_comm 1]

end Occurrences

section Within

/-- A scan of `u ++ v` for `old` comes to the place between `u` and `v`. -/
def Reached (old u v : Text) : Prop := occurrencesFrom old 0 u.length v <:+ occurrences old (u ++ v)

theorem reached_nil (old v : Text) : Reached old [] v := List.suffix_rfl

namespace Reached

variable {u v : Text}

theorem step {c : Char} (h : Reached old u (c :: v)) (hn : ¬ old <+: c :: v) : Reached old (u ++ [c]) v := by
  rw [Reached, occurrencesFrom_cons hn] at h
  rwa [Reached, List.length_append, List.append_assoc]

theorem hit (hne : old ≠ []) (h : Reached old u (old ++ v)) :
    u.length ∈ occurrences old (u ++ (old ++ v)) ∧ Reached old (u ++ old) v := by
  rw [Reached, occurrencesFrom_append hne] at h
  refine ⟨h.subset List.mem_cons_self, ?_⟩
  rw [Reached, List.length_append, List.append_assoc]
  exact (List.suffix_cons _ _).trans h

end Reached

theorem exists_split_of_mem_occurrencesFrom {t : Text} {n pos k : Nat}
    (h : k ∈ occurrencesFrom old n pos t) : ∃ u v, t = u ++ v ∧ k = pos + u.length ∧ old <+: v := by
  induction t generalizing n pos with
  | nil => simp [occurrencesFrom] at h
  | cons c t ih =>
    have hlater {m : Nat} (hm : k ∈ occurrencesFrom old m (pos + 1) t) :
        ∃ u v, c :: t = u ++ v ∧ k = pos + u.length ∧ old <+: v := by
      obtain ⟨u, v, rfl, rfl, hv⟩ := ih hm
      exact ⟨c :: u, v, rfl, by rw [List.length_cons]; omega, hv⟩
    cases n with
    | succ n => exact hlater h
    | zero =>
      rw [occurrencesFrom] at h
      split at h
      · next hp =>
        rw [List.mem_cons] at h
        obtain rfl | h := h
        · exact ⟨[], c :: t, rfl, rfl, List.isPrefixOf_iff_prefix.mp hp⟩
        · exact hlater h
      · exact hlater h

theorem exists_split_of_mem_occurrences {t : Text} {k : Nat} (h : k ∈ occurrences old t) :
    ∃ u v, t = u ++ v ∧ u.length = k ∧ old <+: v := by
  obtain ⟨u, v, ht, hk, hv⟩ := exists_split_of_mem_occurrencesFrom h
  exact ⟨u, v, ht, by omega, hv⟩

/-- One of the occurrences of `old` that a scan of `new` finds begins at the place, with all of `new`
around it. -/
theorem liesWithin_iff {behind ahead : Text} :
    liesWithin old new behind ahead = true ↔
      ∃ u v, new = u ++ v ∧ u.length ∈ occurrences old new ∧ u.reverse <+: behind ∧ v <+: ahead := by
  simp only [liesWithin, List.any_eq_true, Bool.and_eq_true, List.isPrefixOf_iff_prefix]
  constructor
  · rintro ⟨k, hk, hb, ha⟩
    obtain ⟨u, v, rfl, rfl, -⟩ := exists_split_of_mem_occurrences hk
    rw [List.take_left] at hb
    rw [List.drop_left] at ha
    exact ⟨u, v, rfl, hk, hb, ha⟩
  · rintro ⟨u, v, rfl, hk, hb, ha⟩
    refine ⟨u.length, hk, ?_, ?_⟩
    · rwa [List.take_left]
    · rwa [List.drop_left]

end Within

/-- `old` and `new` cannot overlap in part, and `new` does not lie in `old`. -/
structure Apart (old new : Text) : Prop where
  ending : ∀ v, v <:+ old → v ≠ [] → v ≠ old → ¬ v <+: new
  beginning : ∀ u, u <+: old → u ≠ [] → u ≠ old → ¬ u <:+ new
  within : new <:+: old → new = old

namespace Apart

instance : Decidable (Apart old new) :=
  decidable_of_iff
    ((∀ v ∈ old.tails, v ≠ [] → v ≠ old → ¬ v <+: new) ∧ (∀ u ∈ old.inits, u ≠ [] → u ≠ old → ¬ u <:+ new) ∧
      (new <:+: old → new = old)) <| by
    simp only [List.mem_tails, List.mem_inits]
    exact ⟨fun ⟨he, hb, hw⟩ => ⟨he, hb, hw⟩, fun ⟨he, hb, hw⟩ => ⟨he, hb, hw⟩⟩

variable (h : Apart old new)

include h

/-- What reaches back behind an occurrence of `old` holds all of it. -/
theorem behind_hit {u v behind : Text} (hn : new = u ++ v) (hu : u.reverse <+: old.reverse ++ behind) :
    u = [] ∨ ∃ w, u = w ++ old ∧ w.reverse <+: behind := by
  obtain ho | ⟨w, hw, hb⟩ := prefix_append_cases hu
  · by_cases he : u = old
    · exact .inr ⟨[], by simpa using he, List.nil_prefix⟩
    · refine .inl (Classical.byContradiction fun hne => ?_)
      exact h.ending u (List.reverse_prefix.mp ho) hne he (hn ▸ List.prefix_append u v)
  · refine .inr ⟨w.reverse, ?_, by rwa [List.reverse_reverse]⟩
    rw [← List.reverse_reverse u, hw, List.reverse_append, List.reverse_reverse]

/-- What reaches ahead into an occurrence of `old` holds all of it. -/
theorem ahead_hit {u v t : Text} (hn : new = u ++ v) (hv : v <+: old ++ t) :
    v = [] ∨ ∃ w, v = old ++ w ∧ w <+: t := by
  obtain ho | hw := prefix_append_cases hv
  · by_cases he : v = old
    · exact .inr ⟨[], by simpa using he, List.nil_prefix⟩
    · refine .inl (Classical.byContradiction fun hne => ?_)
      exact h.beginning v ho hne he (hn ▸ List.suffix_append u v)
  · exact .inr hw

variable (hne : old ≠ [])

include hne

/-- No end of `old` comes up by a replacement. -/
theorem of_prefix_replaceFrom {v t : Text} (hv : v <:+ old) (ho : v ≠ old) (behind : Text)
    (hp : v <+: replaceFrom old new behind t) : v <+: t := by
  induction t using scan_induction hne generalizing v behind with
  | nil => exact hp
  | step c t hn ih =>
    rw [replaceFrom_cons hn] at hp
    obtain rfl | ⟨w, rfl, hw⟩ := List.prefix_cons_iff.mp hp
    · exact List.nil_prefix
    · have hs : w <:+ old := (List.suffix_cons c w).trans hv
      have hlt : w ≠ old := fun he => by
        have := hv.length_le
        rw [he, List.length_cons] at this
        omega
      exact List.cons_prefix_cons.mpr ⟨rfl, ih hs hlt _ hw⟩
  | hit t ih =>
    have hlt : v.length < old.length :=
      Nat.lt_of_le_of_ne hv.length_le fun he => ho (hv.eq_of_length he)
    rw [replaceFrom_append hne] at hp
    split at hp
    · have ho : v <+: old := List.prefix_of_prefix_length_le hp (List.prefix_append _ _) (Nat.le_of_lt hlt)
      exact ho.trans (List.prefix_append old t)
    · obtain hn | ⟨w, rfl, -⟩ := prefix_append_cases hp
      · by_cases hnil : v = []
        · exact hnil ▸ List.nil_prefix
        · exact absurd hn (h.ending v hv hnil ho)
      · have hi : new <:+: old := (List.prefix_append new w).isInfix.trans hv.isInfix
        rw [← h.within hi, List.length_append] at hlt
        omega

/-- A `new` that the scan came to stays there, whatever it replaces further on. -/
theorem prefix_replaceFrom {u v behind t : Text} (hn : new = u ++ v) (hr : Reached old u v)
    (hb : u.reverse <+: behind) (hv : v <+: t) : v <+: replaceFrom old new behind t := by
  induction t using scan_induction hne generalizing u v behind with
  | nil => exact hv
  | step c t hc ih =>
    rw [replaceFrom_cons hc]
    obtain rfl | ⟨w, rfl, hw⟩ := List.prefix_cons_iff.mp hv
    · exact List.nil_prefix
    · have hcw : ¬ old <+: c :: w := fun ho => hc (ho.trans hv)
      have hi := ih (by rw [hn, List.append_assoc]; rfl) (hr.step hcw) (reverse_prefix_append hb [c]) hw
      exact List.cons_prefix_cons.mpr ⟨rfl, hi⟩
  | hit t ih =>
    obtain rfl | ⟨w, rfl, hw⟩ := h.ahead_hit hn hv
    · exact List.nil_prefix
    · obtain ⟨hm, hr⟩ := hr.hit hne
      have hl : liesWithin old new behind (old ++ t) = true :=
        liesWithin_iff.mpr ⟨u, old ++ w, hn, hn ▸ hm, hb, hv⟩
      have hi := ih (by rw [hn, List.append_assoc]) hr (reverse_prefix_append hb old) hw
      rw [replaceFrom_append hne, if_pos hl]
      exact (List.prefix_append_right_inj old).mpr hi

/-- Nothing is replaced in `new` itself. -/
theorem replaceFrom_new_append {u v behind : Text} (hn : new = u ++ v) (hr : Reached old u v)
    (hb : u.reverse <+: behind) (t : Text) :
    replaceFrom old new behind (v ++ t) = v ++ replaceFrom old new (v.reverse ++ behind) t := by
  induction v using scan_induction hne generalizing u behind with
  | nil => rfl
  | step c v hc ih =>
    have hcv : ¬ old <+: c :: (v ++ t) := fun ho => by
      obtain hp | ⟨w, rfl, -⟩ := prefix_append_cases (a := c :: v) ho
      · exact hc hp
      · by_cases he : c :: v = c :: v ++ w
        · exact hc (he ▸ List.prefix_rfl)
        · exact h.beginning _ (List.prefix_append _ w) (List.cons_ne_nil c v) he (hn ▸ List.suffix_append u _)
    have hcb : (u ++ [c]).reverse <+: c :: behind := reverse_prefix_append hb [c]
    rw [List.cons_append, replaceFrom_cons hcv, ih (by rw [hn, List.append_assoc]; rfl) (hr.step hc) hcb]
    simp
  | hit v ih =>
    obtain ⟨hm, hr⟩ := hr.hit hne
    have hl : liesWithin old new behind (old ++ (v ++ t)) = true :=
      liesWithin_iff.mpr ⟨u, old ++ v, hn, hn ▸ hm, hb, by simp⟩
    have hi := ih (by rw [hn, List.append_assoc]) hr (reverse_prefix_append hb old)
    rw [List.append_assoc, replaceFrom_append hne, if_pos hl, hi]
    simp

end Apart

section Twice

/-- Every `new` across the place was come to by the scan, and lies as far behind in what was written. -/
def Follows (old new behind written t : Text) : Prop :=
  ∀ u v, new = u ++ v → u.reverse <+: behind → v <+: t → Reached old u v ∧ u.reverse <+: written

namespace Follows

variable {behind written t : Text}

theorem start (old new t : Text) : Follows old new [] [] t := by
  intro u v hn hu _
  obtain rfl : u = [] := by simpa using hu
  exact ⟨reached_nil old v, List.nil_prefix⟩

theorem step {c : Char} (h : Follows old new behind written (c :: t)) (hc : ¬ old <+: c :: t) :
    Follows old new (c :: behind) (c :: written) t := by
  intro u v hn hu hv
  obtain rfl | ⟨w, d, rfl⟩ := List.eq_nil_or_concat u
  · exact ⟨reached_nil old v, List.nil_prefix⟩
  · rw [List.concat_eq_append] at hn hu ⊢
    rw [List.reverse_append, List.reverse_singleton] at hu ⊢
    obtain ⟨rfl, hw⟩ := List.cons_prefix_cons.mp hu
    have hdv : d :: v <+: d :: t := List.cons_prefix_cons.mpr ⟨rfl, hv⟩
    obtain ⟨hr, hwr⟩ := h w (d :: v) (by rw [hn, List.append_assoc]; rfl) hw hdv
    exact ⟨hr.step fun ho => hc (ho.trans hdv), List.cons_prefix_cons.mpr ⟨rfl, hwr⟩⟩

/-- Behind an occurrence of `old`, a `new` across the place holds all of it. -/
private theorem hit_cases (h : Follows old new behind written (old ++ t)) (ha : Apart old new)
    (hne : old ≠ []) {u v : Text} (hn : new = u ++ v) (hu : u.reverse <+: old.reverse ++ behind)
    (hv : v <+: t) :
    u = [] ∨ ∃ w, u = w ++ old ∧ w.length ∈ occurrences old new ∧ Reached old (w ++ old) v ∧
      w.reverse <+: behind ∧ w.reverse <+: written := by
  obtain rfl | ⟨w, rfl, hw⟩ := ha.behind_hit hn hu
  · exact .inl rfl
  · have hnw : new = w ++ (old ++ v) := by rw [hn, List.append_assoc]
    obtain ⟨hr, hwr⟩ := h w (old ++ v) hnw hw ((List.prefix_append_right_inj old).mpr hv)
    obtain ⟨hm, hr⟩ := hr.hit hne
    exact .inr ⟨w, rfl, hnw ▸ hm, hr, hw, hwr⟩

theorem kept (h : Follows old new behind written (old ++ t)) (ha : Apart old new) (hne : old ≠ []) :
    Follows old new (old.reverse ++ behind) (old.reverse ++ written) t := by
  intro u v hn hu hv
  obtain rfl | ⟨w, rfl, -, hr, -, hwr⟩ := h.hit_cases ha hne hn hu hv
  · exact ⟨reached_nil old v, List.nil_prefix⟩
  · exact ⟨hr, reverse_prefix_append hwr old⟩

/-- Had a `new` lain around the occurrence, it would not have been replaced. -/
theorem replaced (h : Follows old new behind written (old ++ t)) (ha : Apart old new) (hne : old ≠ [])
    (hl : ¬ liesWithin old new behind (old ++ t) = true) :
    Follows old new (old.reverse ++ behind) (new.reverse ++ written) t := by
  intro u v hn hu hv
  obtain rfl | ⟨w, rfl, hm, -, hw, -⟩ := h.hit_cases ha hne hn hu hv
  · exact ⟨reached_nil old v, List.nil_prefix⟩
  · have hnw : new = w ++ (old ++ v) := by rw [hn, List.append_assoc]
    exact absurd (liesWithin_iff.mpr ⟨w, old ++ v, hnw, hm, hw, (List.prefix_append_right_inj old).mpr hv⟩) hl

end Follows

private theorem replaceFrom_replaceFrom (ha : Apart old new) (hne : old ≠ []) {behind written t : Text}
    (h : Follows old new behind written t) :
    replaceFrom old new written (replaceFrom old new behind t) = replaceFrom old new behind t := by
  induction t using scan_induction hne generalizing behind written with
  | nil => rfl
  | step c t hc ih =>
    have hn : ¬ old <+: c :: replaceFrom old new (c :: behind) t := fun ho => by
      obtain ⟨rest, rfl⟩ : ∃ rest, old = c :: rest := by
        obtain rfl | ⟨rest, rfl, -⟩ := List.prefix_cons_iff.mp ho
        · exact absurd rfl hne
        · exact ⟨rest, rfl⟩
      have hp := ha.of_prefix_replaceFrom hne (List.suffix_cons c rest) (by simp) _
        (List.cons_prefix_cons.mp ho).2
      exact hc (List.cons_prefix_cons.mpr ⟨rfl, hp⟩)
    rw [replaceFrom_cons hc, replaceFrom_cons hn, ih (h.step hc)]
  | hit t ih =>
    rw [replaceFrom_append hne]
    split
    · next hl =>
      obtain ⟨u, v, hn, hm, hu, hv⟩ := liesWithin_iff.mp hl
      obtain ⟨hr, huw⟩ := h u v hn hu hv
      have hva := ha.prefix_replaceFrom hne hn hr hu hv
      rw [replaceFrom_append hne, if_pos hl] at hva
      rw [replaceFrom_append hne, if_pos (liesWithin_iff.mpr ⟨u, v, hn, hm, huw, hva⟩), ih (h.kept ha hne)]
    · next hl =>
      rw [ha.replaceFrom_new_append hne rfl (reached_nil old new) List.nil_prefix,
        ih (h.replaced ha hne hl)]

/-- What was replaced stays replaced, and what was left alone is left alone again. -/
theorem replaceUnlessWithin_replaceUnlessWithin (ha : Apart old new) (t : Text) :
    replaceUnlessWithin old new (replaceUnlessWithin old new t) = replaceUnlessWithin old new t := by
  by_cases hne : old = []
  · subst hne
    rfl
  · rw [replaceUnlessWithin_eq hne, replaceUnlessWithin_eq hne]
    exact replaceFrom_replaceFrom ha hne (Follows.start old new t)

end Twice

end FlagState.Text
