import FlagState.Proofs.Text.Occurrences

/-!
A replacement whose new text begins with the old one completes it wherever it stands, and changes nothing
where that is done (`replaceUnlessWithin_eq_self_iff_completed`). Another replacement leaves it done if the
texts have nothing to do with each other's first letters (`Completed.replaceUnlessWithin`).
-/
namespace FlagState.Text

variable {old new part whole t : Text}

/-- Wherever `part` stands, `whole` begins. -/
def Completed (part whole t : Text) : Prop := ∀ s, s <:+ t → part <+: s → whole <+: s

/-- A replacement that completes `old` changes nothing where each `old` is complete. -/
theorem replaceUnlessWithin_eq_self_iff_completed (ha : Apart old new) (hne : old ≠ []) (hp : old <+: new)
    (hlt : old.length < new.length) (hone : occurrences old new = [0]) :
    replaceUnlessWithin old new t = t ↔ Completed old new t := by
  have hfound {i : Nat} : FoundAt old new t i ↔ new <+: t.drop i := by
    simp [FoundAt, hone]
  rw [replaceUnlessWithin_eq_self_iff hne hlt]
  constructor
  · intro h s hs ho
    have hall := findsAll_of_unbordered hne (fun v hv hn hvo hvp => ha.ending v hv hn hvo (hvp.trans hp)) t
    have hd := List.suffix_iff_eq_drop.mp hs
    rw [hd] at ho
    have hi : t.length - s.length < t.length := by
      by_contra hge
      rw [List.drop_of_length_le (Nat.le_of_not_lt hge)] at ho
      exact hne (List.prefix_nil.mp ho)
    rw [hd]
    exact hfound.mp (h _ (hall _ hi ho))
  · intro h i hi
    exact hfound.mpr (h _ (List.drop_suffix i t) (prefix_drop_of_mem_occurrences hi))

section Bystander

/-- What stands somewhere and does not have the first letter of `old` stays there. -/
private theorem prefix_replaceFrom_of_head (hne : old ≠ []) {u behind : Text} (h : ∀ c ∈ old.head?, c ∉ u)
    (hu : u <+: t) : u <+: replaceFrom old new behind t := by
  induction t using scan_induction hne generalizing u behind with
  | nil => exact hu
  | step c t hc ih =>
    rw [replaceFrom_cons hc]
    obtain rfl | ⟨w, rfl, hw⟩ := List.prefix_cons_iff.mp hu
    · exact List.nil_prefix
    · have hi : w <+: replaceFrom old new (c :: behind) t :=
        ih (fun d hd hm => h d hd (List.mem_cons_of_mem c hm)) hw
      exact List.cons_prefix_cons.mpr ⟨rfl, hi⟩
  | hit t =>
    obtain ⟨c, rest, rfl⟩ := List.exists_cons_of_ne_nil hne
    rw [List.cons_append] at hu
    obtain rfl | ⟨w, rfl, -⟩ := List.prefix_cons_iff.mp hu
    · exact List.nil_prefix
    · exact absurd List.mem_cons_self (h c rfl)

/-- What does not have the first letter of `new` stood there before. -/
private theorem prefix_of_prefix_replaceFrom (hne : old ≠ []) (hn : new ≠ []) {u behind : Text}
    (h : ∀ c ∈ new.head?, c ∉ u) (hu : u <+: replaceFrom old new behind t) : u <+: t := by
  induction t using scan_induction hne generalizing u behind with
  | nil => exact hu
  | step c t hc ih =>
    rw [replaceFrom_cons hc] at hu
    obtain rfl | ⟨w, rfl, hw⟩ := List.prefix_cons_iff.mp hu
    · exact List.nil_prefix
    · exact List.cons_prefix_cons.mpr ⟨rfl, ih (fun d hd hm => h d hd (List.mem_cons_of_mem c hm)) hw⟩
  | hit t ih =>
    rw [replaceFrom_append hne] at hu
    split at hu
    · obtain ho | ⟨w, rfl, hw⟩ := prefix_append_cases hu
      · exact ho.trans (List.prefix_append old t)
      · have hi := ih (fun d hd hm => h d hd (List.mem_append_right old hm)) hw
        exact (List.prefix_append_right_inj old).mpr hi
    · obtain ⟨c, rest, rfl⟩ := List.exists_cons_of_ne_nil hn
      rw [List.cons_append] at hu
      obtain rfl | ⟨w, rfl, -⟩ := List.prefix_cons_iff.mp hu
      · exact List.nil_prefix
      · exact absurd List.mem_cons_self (h c rfl)

/-- A letter that neither text has marks a place that the scan comes to. -/
private theorem exists_replaceFrom_of_suffix (hne : old ≠ []) {d : Char} {s behind : Text} (ho : d ∉ old)
    (hn : d ∉ new) (hs : d :: s <:+ replaceFrom old new behind t) :
    ∃ b u, u <:+ t ∧ d :: s = replaceFrom old new b u := by
  have hbehind {x rest : Text} (hx : d ∉ x) (h : d :: s <:+ x ++ rest) : d :: s <:+ rest := by
    obtain hr | ⟨y, hy⟩ := List.suffix_or_suffix_of_suffix h (List.suffix_append x rest)
    · exact hr
    · cases y with
      | nil => exact ⟨[], hy.symm⟩
      | cons e y =>
        obtain ⟨rfl, -⟩ := List.cons.inj hy
        rw [← hy] at h
        have hyx : e :: y <:+ x := List.suffix_append_self_iff.mp h
        exact absurd (hyx.mem List.mem_cons_self) hx
  induction t using scan_induction hne generalizing behind with
  | nil => simp [replaceFrom, substituteFrom] at hs
  | step c t hc ih =>
    rw [replaceFrom_cons hc] at hs
    obtain he | hs := List.suffix_cons_iff.mp hs
    · exact ⟨behind, c :: t, List.suffix_rfl, by rw [he, replaceFrom_cons hc]⟩
    · obtain ⟨b, u, hu, he⟩ := ih hs
      exact ⟨b, u, hu.trans (List.suffix_cons c t), he⟩
  | hit t ih =>
    rw [replaceFrom_append hne] at hs
    have hx : d ∉ if liesWithin old new behind (old ++ t) then old else new := by
      split
      · exact ho
      · exact hn
    obtain ⟨b, u, hu, he⟩ := ih (hbehind hx hs)
    exact ⟨b, u, hu.trans (List.suffix_append old t), he⟩

/-- The texts of a replacement tell `part` and `whole` apart from themselves by first letters. -/
structure Bystander (part whole old new : Text) : Prop where
  part_ne_nil : part ≠ []
  old_ne_nil : old ≠ []
  new_ne_nil : new ≠ []
  head_part : ∀ c ∈ part.head?, c ∉ old ∧ c ∉ new
  head_new : ∀ c ∈ new.head?, c ∉ part
  head_old : ∀ c ∈ old.head?, c ∉ whole

instance : Decidable (Bystander part whole old new) :=
  decidable_of_iff
    (part ≠ [] ∧ old ≠ [] ∧ new ≠ [] ∧ part.head?.all (fun c => c ∉ old ∧ c ∉ new) = true ∧
      new.head?.all (· ∉ part) = true ∧ old.head?.all (· ∉ whole) = true) <| by
    simp only [Option.all_eq_true, decide_eq_true_eq]
    exact ⟨fun ⟨hp, ho, hn, hhp, hhn, hho⟩ => ⟨hp, ho, hn, hhp, hhn, hho⟩,
      fun ⟨hp, ho, hn, hhp, hhn, hho⟩ => ⟨hp, ho, hn, hhp, hhn, hho⟩⟩

theorem Completed.replaceUnlessWithin (h : Completed part whole t) (hb : Bystander part whole old new) :
    Completed part whole (replaceUnlessWithin old new t) := by
  intro s hs hp
  obtain ⟨d, rest, hd⟩ := List.exists_cons_of_ne_nil hb.part_ne_nil
  obtain ⟨ho, hn⟩ := hb.head_part d (by rw [hd]; rfl)
  obtain ⟨s', rfl⟩ : ∃ s', s = d :: s' := by
    rw [hd] at hp
    obtain ⟨r, rfl⟩ := hp
    exact ⟨rest ++ r, rfl⟩
  rw [replaceUnlessWithin_eq hb.old_ne_nil] at hs
  obtain ⟨b, u, hu, he⟩ := exists_replaceFrom_of_suffix hb.old_ne_nil ho hn hs
  rw [he] at hp ⊢
  have hpu := prefix_of_prefix_replaceFrom hb.old_ne_nil hb.new_ne_nil hb.head_new hp
  exact prefix_replaceFrom_of_head hb.old_ne_nil hb.head_old (h u hu hpu)

end Bystander

end FlagState.Text
