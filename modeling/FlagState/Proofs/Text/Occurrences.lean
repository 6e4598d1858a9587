import FlagState.Proofs.Text.Replacement

/-!
A replacement by places: of each occurrence that a scan comes to it is asked whether it is kept. It is kept
where a `new` lies around it in which a scan of its own finds it (`replaceUnlessWithin_eq_rewrite`). That is
less than lying in some `new`, unless the scan of `new` finds all occurrences of `old`
(`replaceUnlessWithin_eq_replaceOutside_iff`).
-/
namespace FlagState.Text

variable {old new t : Text}

section Rewrite

/-- Writes something at each of the places and copies what is between them. The places are `width` characters
wide, and the text begins at `pos`. -/
def rewriteFrom (width : Nat) (written : Nat → Text) (pos : Nat) : List Nat → Text → Text
  | [], t => t
  | i :: places, t =>
    t.take (i - pos) ++ (written i ++ rewriteFrom width written (i + width) places (t.drop (i - pos + width)))

/-- Writes something for each occurrence of `old`, by its place, and copies the rest. -/
def rewrite (old : Text) (written : Nat → Text) (t : Text) : Text :=
  rewriteFrom old.length written 0 (occurrences old t) t

variable {f g : Nat → Text} {places : List Nat} {pos : Nat}

theorem rewriteFrom_cons (width : Nat) (c : Char) (t : Text) (h : ∀ i ∈ places, pos < i) :
    rewriteFrom width f pos places (c :: t) = c :: rewriteFrom width f (pos + 1) places t := by
  cases places with
  | nil => rfl
  | cons i places =>
    have hi : i - pos = i - (pos + 1) + 1 := by
      have := h i List.mem_cons_self
      omega
    rw [rewriteFrom, rewriteFrom, hi, Nat.add_right_comm]
    rfl

theorem rewriteFrom_append (u t : Text) :
    rewriteFrom u.length f pos (pos :: places) (u ++ t) =
      f pos ++ rewriteFrom u.length f (pos + u.length) places t := by
  rw [rewriteFrom, Nat.sub_self, Nat.zero_add, List.drop_left]
  rfl

theorem rewriteFrom_congr (h : ∀ i ∈ places, f i = g i) (width pos : Nat) (t : Text) :
    rewriteFrom width f pos places t = rewriteFrom width g pos places t := by
  induction places generalizing pos t with
  | nil => rfl
  | cons i places ih =>
    rw [rewriteFrom, rewriteFrom, h i List.mem_cons_self, ih fun j hj => h j (List.mem_cons_of_mem i hj)]

theorem length_rewriteFrom_le (h : ∀ i ∈ places, (f i).length ≤ (g i).length) (width pos : Nat) (t : Text) :
    (rewriteFrom width f pos places t).length ≤ (rewriteFrom width g pos places t).length := by
  induction places generalizing pos t with
  | nil => exact Nat.le_refl _
  | cons i places ih =>
    have hi := h i List.mem_cons_self
    have hrest := ih (fun j hj => h j (List.mem_cons_of_mem i hj)) (i + width) (t.drop (i - pos + width))
    simp only [rewriteFrom, List.length_append]
    omega

/-- What is written can be told from the result, if it only ever differs by being shorter. -/
theorem rewriteFrom_eq_iff (h : ∀ i ∈ places, f i = g i ∨ (f i).length < (g i).length) (width pos : Nat)
    (t : Text) :
    rewriteFrom width f pos places t = rewriteFrom width g pos places t ↔ ∀ i ∈ places, f i = g i := by
  refine ⟨fun he => ?_, fun he => rewriteFrom_congr he width pos t⟩
  induction places generalizing pos t with
  | nil => exact List.forall_mem_nil _
  | cons i places ih =>
    have hplaces (j : Nat) (hj : j ∈ places) := h j (List.mem_cons_of_mem i hj)
    have hle (j : Nat) (hj : j ∈ places) : (f j).length ≤ (g j).length := by
      obtain hf | hf := hplaces j hj
      · rw [hf]
      · exact Nat.le_of_lt hf
    have hrest := length_rewriteFrom_le hle width (i + width) (t.drop (i - pos + width))
    have htail := List.append_cancel_left he
    have hi : f i = g i := by
      refine (h i List.mem_cons_self).resolve_right fun hlt => ?_
      have hl := congrArg List.length htail
      simp only [List.length_append] at hl
      omega
    rw [hi] at htail
    exact List.forall_mem_cons.mpr ⟨hi, ih hplaces _ _ (List.append_cancel_left htail)⟩

theorem lt_of_mem_occurrencesFrom {i : Nat} (h : i ∈ occurrencesFrom old 0 (pos + 1) t) : pos < i := by
  obtain ⟨u, v, -, rfl, -⟩ := exists_split_of_mem_occurrencesFrom h
  omega

/-- To write `old` for each `old` is to copy the text. -/
theorem rewrite_old (hne : old ≠ []) (t : Text) : rewrite old (fun _ => old) t = t := by
  have hfrom (pos : Nat) (t : Text) :
      rewriteFrom old.length (fun _ => old) pos (occurrencesFrom old 0 pos t) t = t := by
    induction t using scan_induction hne generalizing pos with
    | nil => rfl
    | step c t hc ih =>
      rw [occurrencesFrom_cons hc, rewriteFrom_cons _ c t fun i => lt_of_mem_occurrencesFrom, ih]
    | hit t ih => rw [occurrencesFrom_append hne, rewriteFrom_append, ih]
  exact hfrom 0 t

/-- Every `old` becomes `new`. -/
def replaceAll (old new t : Text) : Text := rewrite old (fun _ => new) t

end Rewrite

section Places

/-- All of the occurrence of `old` at a place lies in some occurrence of `new`. -/
def EnclosedAt (old new t : Text) (i : Nat) : Prop :=
  ∃ j ≤ i, i + old.length ≤ j + new.length ∧ new <+: t.drop j

/-- A `new` lies around the place in which a scan finds the occurrence of `old`. -/
def FoundAt (old new t : Text) (i : Nat) : Prop := ∃ k ∈ occurrences old new, k ≤ i ∧ new <+: t.drop (i - k)

/-- A scan finds every occurrence of `old`, so that none of them overlaps one that was found. -/
def FindsAll (old t : Text) : Prop := ∀ i < t.length, old <+: t.drop i → i ∈ occurrences old t

instance : DecidablePred (EnclosedAt old new t) := fun i =>
  inferInstanceAs (Decidable (∃ j ≤ i, i + old.length ≤ j + new.length ∧ new <+: t.drop j))

instance : DecidablePred (FoundAt old new t) := fun i =>
  inferInstanceAs (Decidable (∃ k ∈ occurrences old new, k ≤ i ∧ new <+: t.drop (i - k)))

instance : Decidable (FindsAll old t) :=
  inferInstanceAs (Decidable (∀ i < t.length, old <+: t.drop i → i ∈ occurrences old t))

/-- Keeps each `old` that lies in some `new` and writes `new` for every other. -/
def replaceOutside (old new t : Text) : Text :=
  rewrite old (fun i => if EnclosedAt old new t i then old else new) t

theorem prefix_drop_of_mem_occurrences {i : Nat} (h : i ∈ occurrences old t) : old <+: t.drop i := by
  obtain ⟨u, v, rfl, rfl, hv⟩ := exists_split_of_mem_occurrences h
  rwa [List.drop_left]

theorem FoundAt.isInfix {i : Nat} (h : FoundAt old new t i) : new <:+: t := by
  obtain ⟨k, -, -, hn⟩ := h
  exact hn.isInfix.trans (List.drop_suffix _ _).isInfix

theorem FoundAt.enclosedAt {i : Nat} (h : FoundAt old new t i) : EnclosedAt old new t i := by
  obtain ⟨k, hk, hi, hn⟩ := h
  have hl := (prefix_drop_of_mem_occurrences hk).length_le
  obtain ⟨u, v, rfl, rfl, -⟩ := exists_split_of_mem_occurrences hk
  rw [List.drop_left] at hl
  refine ⟨i - u.length, Nat.sub_le _ _, ?_, hn⟩
  rw [List.length_append]
  omega

/-- An occurrence that `new` encloses is one in `new`. -/
theorem EnclosedAt.exists_offset (hne : old ≠ []) {i : Nat} (h : EnclosedAt old new t i)
    (ho : old <+: t.drop i) : ∃ k < new.length, old <+: new.drop k ∧ k ≤ i ∧ new <+: t.drop (i - k) := by
  obtain ⟨j, hj, hl, hn⟩ := h
  have hpos := List.length_pos_iff.mpr hne
  refine ⟨i - j, by omega, ?_, Nat.sub_le _ _, by rwa [Nat.sub_sub_self hj]⟩
  obtain ⟨r, hr⟩ := hn
  have hd : t.drop i = new.drop (i - j) ++ r := by
    rw [← List.drop_append_of_le_length (by omega), hr, List.drop_drop, Nat.add_sub_of_le hj]
  rw [hd] at ho
  refine List.prefix_of_prefix_length_le ho (List.prefix_append _ r) ?_
  rw [List.length_drop]
  omega

theorem FindsAll.enclosedAt_iff (h : FindsAll old new) (hne : old ≠ []) {i : Nat} (ho : old <+: t.drop i) :
    EnclosedAt old new t i ↔ FoundAt old new t i := by
  refine ⟨fun he => ?_, FoundAt.enclosedAt⟩
  obtain ⟨k, hk, hok, hi, hn⟩ := he.exists_offset hne ho
  exact ⟨k, h k hk hok, hi, hn⟩

/-- An occurrence that a scan does not find overlaps one in front of it that is found. -/
theorem exists_mem_occurrences (hne : old ≠ []) {i : Nat} (h : old <+: t.drop i) :
    ∃ j ∈ occurrences old t, j ≤ i ∧ i < j + old.length := by
  have hfrom (pos i : Nat) (t : Text) (hi : old <+: t.drop i) :
      ∃ j ∈ occurrencesFrom old 0 pos t, j ≤ pos + i ∧ pos + i < j + old.length := by
    induction t using scan_induction hne generalizing pos i with
    | nil =>
      rw [List.drop_nil] at hi
      exact absurd (List.prefix_nil.mp hi) hne
    | step c t hc ih =>
      rw [occurrencesFrom_cons hc]
      cases i with
      | zero => exact absurd hi hc
      | succ i =>
        obtain ⟨j, hj, hle, hlt⟩ := ih (pos + 1) i hi
        exact ⟨j, hj, by omega, by omega⟩
    | hit t ih =>
      rw [occurrencesFrom_append hne]
      obtain hlt | hle := Nat.lt_or_ge i old.length
      · exact ⟨pos, List.mem_cons_self, by omega, by omega⟩
      · rw [List.drop_append, List.drop_of_length_le hle, List.nil_append] at hi
        obtain ⟨j, hj, hji, hij⟩ := ih (pos + old.length) (i - old.length) hi
        exact ⟨j, List.mem_cons_of_mem pos hj, by omega, by omega⟩
  obtain ⟨j, hj, hle, hlt⟩ := hfrom 0 i t h
  exact ⟨j, hj, by omega, by omega⟩

/-- Where no end of `old` is a beginning of it, no occurrence overlaps another. -/
theorem findsAll_of_unbordered (hne : old ≠ []) (h : ∀ v, v <:+ old → v ≠ [] → v ≠ old → ¬ v <+: old)
    (t : Text) : FindsAll old t := by
  intro i _ hi
  obtain ⟨j, hj, hle, hlt⟩ := exists_mem_occurrences hne hi
  obtain rfl | hne' := Nat.eq_or_lt_of_le hle
  · exact hj
  · obtain ⟨r, hr⟩ := prefix_drop_of_mem_occurrences hj
    have hd : t.drop i = old.drop (i - j) ++ r := by
      rw [← List.drop_append_of_le_length (by omega), hr, List.drop_drop, Nat.add_sub_of_le hle]
    rw [hd] at hi
    have hp : old.drop (i - j) <+: old :=
      List.prefix_of_prefix_length_le (List.prefix_append _ r) hi (by simp)
    refine absurd hp (h _ (List.drop_suffix _ old) ?_ fun he => ?_)
    · rw [ne_eq, List.drop_eq_nil_iff]
      omega
    · have hl := congrArg List.length he
      rw [List.length_drop] at hl
      omega

end Places

section Guard

private theorem reverse_prefix_and_prefix_iff {u v behind ahead : Text} :
    u.reverse <+: behind ∧ v <+: ahead ↔
      u.length ≤ behind.length ∧ u ++ v <+: (behind.reverse ++ ahead).drop (behind.length - u.length) := by
  constructor
  · rintro ⟨⟨w, rfl⟩, hv⟩
    refine ⟨by simp, ?_⟩
    have hd : ((u.reverse ++ w).reverse ++ ahead).drop ((u.reverse ++ w).length - u.length) = u ++ ahead := by
      simp
    rw [hd]
    exact (List.prefix_append_right_inj u).mpr hv
  · rintro ⟨hl, hp⟩
    rw [List.drop_append_of_le_length (by simp)] at hp
    have hlen : (behind.reverse.drop (behind.length - u.length)).length = u.length := by
      rw [List.length_drop, List.length_reverse]
      omega
    obtain ⟨r, hr⟩ := hp
    rw [List.append_assoc] at hr
    obtain ⟨hu, hv⟩ := List.append_inj hr hlen.symm
    refine ⟨?_, r, hv⟩
    rw [← List.reverse_suffix, List.reverse_reverse, hu]
    exact List.drop_suffix _ _

theorem liesWithin_iff_foundAt {behind ahead : Text} :
    liesWithin old new behind ahead = true ↔ FoundAt old new (behind.reverse ++ ahead) behind.length := by
  simp only [liesWithin, List.any_eq_true, Bool.and_eq_true, List.isPrefixOf_iff_prefix, FoundAt]
  refine exists_congr fun k => and_congr_right fun hk => ?_
  obtain ⟨u, v, rfl, rfl, -⟩ := exists_split_of_mem_occurrences hk
  rw [List.take_left, List.drop_left]
  exact reverse_prefix_and_prefix_iff

private theorem replaceFrom_eq_rewriteFrom (hne : old ≠ []) {behind ahead : Text}
    (ht : behind.reverse ++ ahead = t) :
    replaceFrom old new behind ahead =
      rewriteFrom old.length (fun i => if FoundAt old new t i then old else new) behind.length
        (occurrencesFrom old 0 behind.length ahead) ahead := by
  induction ahead using scan_induction hne generalizing behind with
  | nil => rfl
  | step c ahead hc ih =>
    have hnext : (c :: behind).reverse ++ ahead = t := by rw [← ht, List.reverse_cons, List.append_assoc]; rfl
    rw [replaceFrom_cons hc, occurrencesFrom_cons hc,
      rewriteFrom_cons _ c ahead fun i => lt_of_mem_occurrencesFrom, ih hnext]
    rfl
  | hit ahead ih =>
    have hnext : (old.reverse ++ behind).reverse ++ ahead = t := by rw [← ht]; simp
    have hlen : (old.reverse ++ behind).length = behind.length + old.length := by simp [Nat.add_comm]
    have hi := ih hnext
    rw [hlen] at hi
    rw [replaceFrom_append hne, occurrencesFrom_append hne, rewriteFrom_append, hi]
    simp only [liesWithin_iff_foundAt, ht]

/-- Kept is what a scan of `new` finds in a `new` around it. -/
theorem replaceUnlessWithin_eq_rewrite (hne : old ≠ []) (new t : Text) :
    replaceUnlessWithin old new t = rewrite old (fun i => if FoundAt old new t i then old else new) t := by
  rw [replaceUnlessWithin_eq hne]
  exact replaceFrom_eq_rewriteFrom hne rfl

/-- A text that is replaced by a longer one stays only where it is kept. -/
theorem replaceUnlessWithin_eq_self_iff (hne : old ≠ []) (hl : old.length < new.length) :
    replaceUnlessWithin old new t = t ↔ ∀ i ∈ occurrences old t, FoundAt old new t i := by
  have hshort : ∀ i ∈ occurrences old t, old = (if FoundAt old new t i then old else new) ∨
      old.length < (if FoundAt old new t i then old else new).length := by
    intro i _
    split
    · exact .inl rfl
    · exact .inr hl
  have hiff := rewriteFrom_eq_iff hshort old.length 0 t
  have hcopy : rewriteFrom old.length (fun _ => old) 0 (occurrences old t) t = t := rewrite_old hne t
  rw [hcopy] at hiff
  rw [replaceUnlessWithin_eq_rewrite hne, eq_comm, rewrite, hiff]
  refine forall_congr' fun i => imp_congr_right fun _ => ?_
  split
  · next h => exact ⟨fun _ => h, fun _ => rfl⟩
  · next h => exact ⟨fun he => absurd (congrArg List.length he) (Nat.ne_of_lt hl), fun hf => absurd hf h⟩

/-- Only an occurrence that a scan of `new` passes over is replaced in a `new`. -/
theorem replaceUnlessWithin_eq_replaceOutside_iff (hne : old ≠ []) :
    replaceUnlessWithin old new t = replaceOutside old new t ↔
      ∀ i ∈ occurrences old t, EnclosedAt old new t i → FoundAt old new t i := by
  -- An enclosed occurrence of a text that is no shorter than `new` is all of `new`, and found.
  have hlonger {i : Nat} (hi : i ∈ occurrences old t) (he : EnclosedAt old new t i)
      (hf : ¬ FoundAt old new t i) : old.length < new.length := by
    obtain ⟨k, hk, hok, hki, hn⟩ := he.exists_offset hne (prefix_drop_of_mem_occurrences hi)
    have hle := hok.length_le
    rw [List.length_drop] at hle
    refine Nat.lt_of_le_of_ne (by omega) fun hlen => hf ?_
    obtain rfl : k = 0 := by omega
    have ho : old = new := hok.eq_of_length hlen
    have hz : 0 ∈ occurrences old new := by
      have := occurrencesFrom_append hne 0 []
      rw [List.append_nil] at this
      rw [← ho, occurrences, this]
      exact List.mem_cons_self
    exact ⟨0, hz, hki, hn⟩
  have hshort : ∀ i ∈ occurrences old t,
      (if EnclosedAt old new t i then old else new) = (if FoundAt old new t i then old else new) ∨
        (if EnclosedAt old new t i then old else new).length <
          (if FoundAt old new t i then old else new).length := by
    intro i hi
    by_cases hf : FoundAt old new t i
    · rw [if_pos hf, if_pos hf.enclosedAt]
      exact .inl rfl
    · by_cases he : EnclosedAt old new t i
      · rw [if_neg hf, if_pos he]
        exact .inr (hlonger hi he hf)
      · rw [if_neg hf, if_neg he]
        exact .inl rfl
  rw [replaceUnlessWithin_eq_rewrite hne, eq_comm, replaceOutside, rewrite, rewrite,
    rewriteFrom_eq_iff hshort]
  refine forall_congr' fun i => imp_congr_right fun hi => ?_
  by_cases hf : FoundAt old new t i
  · rw [if_pos hf, if_pos hf.enclosedAt]
    exact ⟨fun _ _ => hf, fun _ => rfl⟩
  · by_cases he : EnclosedAt old new t i
    · rw [if_neg hf, if_pos he]
      have hl := hlonger hi he hf
      exact ⟨fun ho => absurd (congrArg List.length ho) (Nat.ne_of_lt hl), fun h => absurd (h he) hf⟩
    · rw [if_neg hf, if_neg he]
      exact ⟨fun _ h => absurd h he, fun _ => rfl⟩

/-- Where the scan of `new` passes over nothing, an occurrence is kept if it lies in any `new`. -/
theorem FindsAll.replaceUnlessWithin_eq (h : FindsAll old new) (hne : old ≠ []) (t : Text) :
    replaceUnlessWithin old new t = replaceOutside old new t :=
  (replaceUnlessWithin_eq_replaceOutside_iff hne).mpr fun _ hi he =>
    (h.enclosedAt_iff hne (prefix_drop_of_mem_occurrences hi)).mp he

/-- In a text without `new` nothing is kept. -/
theorem replaceUnlessWithin_eq_replaceAll (hne : old ≠ []) (h : ¬ new <:+: t) :
    replaceUnlessWithin old new t = replaceAll old new t := by
  rw [replaceUnlessWithin_eq_rewrite hne, replaceAll, rewrite, rewrite]
  refine rewriteFrom_congr (fun i _ => ?_) _ 0 t
  rw [if_neg fun hf => h hf.isInfix]

end Guard

end FlagState.Text
