import FlagState.Listing
import FlagState.Proofs.Sink

/-!
The steps that write a listing. Each step writes one text, in whatever pieces, and a footer or a flush
flushes the sink behind it (`step_of_pieces`). Steps in any order leave behind what they would leave without
limits, cut off at the capacity of the sink (`steps_truncate`).
-/
namespace FlagState.Listing

variable (l : Listing)

@[simp] theorem layout_write (t : Text) : (l.write t).1.layout = l.layout := rfl

@[simp] theorem functionName_write (t : Text) : (l.write t).1.functionName = l.functionName := rfl

@[simp] theorem sink_write (t : Text) : (l.write t).1.sink = (l.sink.write t).1 := rfl

@[simp] theorem complete_write (t : Text) : (l.write t).2 = (l.sink.write t).2 := rfl

@[simp] theorem layout_flush : l.flush.layout = l.layout := rfl

@[simp] theorem functionName_flush : l.flush.functionName = l.functionName := rfl

@[simp] theorem sink_flush : l.flush.sink = l.sink.flush := rfl

theorem write_nil : l.write [] = (l, true) := by simp only [write, Sink.write_nil]

theorem write_append_of_room {t : Text} (h : (l.write t).2 = true) (u : Text) :
    l.write (t ++ u) = (l.write t).1.write u := by
  simp only [write, Sink.write_append_of_room _ h]

theorem write_append_of_full {t : Text} (h : (l.write t).2 = false) (u : Text) :
    l.write (t ++ u) = l.write t := by
  simp only [write, Sink.write_append_of_full _ h]

namespace Step

/-- What a step writes. -/
def text (layout : Layout) (functionName : Text) : Step → Text
  | .header => layout.header functionName
  | .arm a => a.text ++ ['\n']
  | .footer => layout.footer
  | .functionName _ | .flush => []

/-- Whether a step flushes the sink behind what it writes. -/
def flushes : Step → Bool
  | .footer | .flush => true
  | .functionName _ | .header | .arm _ => false

/-- The function name behind a step. -/
def rename (functionName : Text) : Step → Text
  | .functionName name => name
  | .header | .arm _ | .footer | .flush => functionName

/-- What each of several steps writes. A header tells the function name that was given last. -/
def texts (layout : Layout) (functionName : Text) : List Step → List Text
  | [] => []
  | s :: ss => s.text layout functionName :: texts layout (s.rename functionName) ss

variable (layout : Layout) (functionName : Text)

/-- Only a header tells the function name. -/
theorem text_congr {s : Step} (h : s ≠ .header) (other : Text) :
    s.text layout functionName = s.text layout other := by
  cases s with
  | header => exact absurd rfl h
  | functionName name | arm a | footer | flush => rfl

theorem length_texts (ss : List Step) : (texts layout functionName ss).length = ss.length := by
  induction ss generalizing functionName with
  | nil => rfl
  | cons s ss ih => rw [texts, List.length_cons, List.length_cons, ih]

theorem texts_append (before behind : List Step) :
    texts layout functionName (before ++ behind) =
      texts layout functionName before ++ texts layout (before.foldl rename functionName) behind := by
  induction before generalizing functionName with
  | nil => rfl
  | cons s before ih => rw [List.cons_append, texts, ih, texts, List.cons_append, List.foldl_cons]

theorem take_texts (ss : List Step) (n : Nat) :
    texts layout functionName (ss.take n) = (texts layout functionName ss).take n := by
  induction ss generalizing functionName n with
  | nil => rw [List.take_nil, texts, List.take_nil]
  | cons s ss ih =>
    cases n with
    | zero => rfl
    | succ n => rw [List.take_succ_cons, texts, texts, List.take_succ_cons, ih]

theorem getElem?_texts (ss : List Step) (i : Nat) :
    (texts layout functionName ss)[i]? =
      ss[i]?.map (text layout ((ss.take i).foldl rename functionName)) := by
  induction ss generalizing functionName i with
  | nil => rfl
  | cons s ss ih =>
    cases i with
    | zero => rfl
    | succ i =>
      rw [texts, List.getElem?_cons_succ, List.getElem?_cons_succ, ih, List.take_succ_cons,
        List.foldl_cons]

end Step

section Steps

variable (s : Step)

/-- A step writes its text as far as there is room, and flushes only behind the whole of it. -/
theorem step_eq :
    l.step s =
      let w := l.sink.write (s.text l.layout l.functionName)
      (⟨if s.flushes && w.2 then w.1.flush else w.1, l.layout, s.rename l.functionName⟩, w.2) := by
  cases s with
  | functionName name =>
    simp only [step, Step.text, Step.flushes, Step.rename, Sink.write_nil]
    rfl
  | header => rfl
  | arm a => rfl
  | footer =>
    simp only [step, writeFooter, Step.text, Step.flushes, Step.rename, write, Bool.true_and]
    obtain ⟨sink, _ | _⟩ := l.sink.write l.layout.footer <;> rfl
  | flush =>
    simp only [step, Step.text, Step.flushes, Step.rename, Sink.write_nil]
    rfl

/-- It does not matter in which pieces a step writes, as long as it ends at the first without room. -/
theorem step_of_pieces {pieces : List Text} (h : pieces.flatten = s.text l.layout l.functionName) :
    l.step s =
      let w := l.sink.writeAll pieces
      (⟨if s.flushes && w.2 then w.1.flush else w.1, l.layout, s.rename l.functionName⟩, w.2) := by
  rw [Sink.writeAll_eq_write, h]
  exact step_eq l s

theorem complete_step : (l.step s).2 = (l.sink.write (s.text l.layout l.functionName)).2 := by
  rw [step_eq]

theorem capacity_step : (l.step s).1.sink.capacity = l.sink.capacity := by
  rw [step_eq]
  dsimp only
  split <;> rfl

theorem layout_step : (l.step s).1.layout = l.layout := by
  rw [step_eq]

theorem functionName_step : (l.step s).1.functionName = s.rename l.functionName := by
  rw [step_eq]

theorem flushes_step :
    (l.step s).1.sink.flushes =
      l.sink.flushes + if s = .flush ∨ s = .footer ∧ (l.step s).2 = true then 1 else 0 := by
  rw [step_eq]
  dsimp only
  cases s with
  | functionName name | header | arm a => simp [Step.flushes, Sink.flushes_write]
  | flush => simp [Step.flushes, Step.text, Sink.write_nil]
  | footer =>
    rw [Step.flushes, Bool.true_and]
    split <;> simp_all [Sink.flushes_write]

variable {l} {s}

/-- A step offers its text to the sink, which keeps what has room. -/
theorem offered_step {bytes : List UInt8} (h : l.sink.Offered bytes) :
    (l.step s).1.sink.Offered (bytes ++ (s.text l.layout l.functionName).utf8) := by
  rw [step_eq]
  dsimp only
  split
  · exact (h.write _).flush
  · exact h.write _

end Steps

section Runs

/-- The listing after steps. -/
def after (l : Listing) (ss : List Step) : Listing := ss.foldl (fun l s => (l.step s).1) l

theorem after_cons (l : Listing) (s : Step) (ss : List Step) : l.after (s :: ss) = (l.step s).1.after ss := rfl

theorem getElem?_steps (l : Listing) (ss : List Step) (i : Nat) :
    (l.steps ss)[i]? = ss[i]?.map (l.after (ss.take i)).step := by
  induction ss generalizing l i with
  | nil => rfl
  | cons s ss ih =>
    cases i with
    | zero => rfl
    | succ i =>
      rw [steps, List.getElem?_cons_succ, List.getElem?_cons_succ, ih]
      rfl

theorem layout_after (l : Listing) (ss : List Step) : (l.after ss).layout = l.layout := by
  induction ss generalizing l with
  | nil => rfl
  | cons s ss ih => exact (ih _).trans (layout_step l s)

theorem functionName_after (l : Listing) (ss : List Step) :
    (l.after ss).functionName = ss.foldl Step.rename l.functionName := by
  induction ss generalizing l with
  | nil => rfl
  | cons s ss ih =>
    refine (ih _).trans ?_
    rw [functionName_step]
    rfl

theorem capacity_after (l : Listing) (ss : List Step) : (l.after ss).sink.capacity = l.sink.capacity := by
  induction ss generalizing l with
  | nil => rfl
  | cons s ss ih => exact (ih _).trans (capacity_step l s)

theorem offered_after {l : Listing} {bytes : List UInt8} (h : l.sink.Offered bytes) (ss : List Step) :
    (l.after ss).sink.Offered (bytes ++ ((Step.texts l.layout l.functionName ss).map Text.utf8).flatten) := by
  induction ss generalizing l bytes with
  | nil => rwa [Step.texts, List.map_nil, List.flatten_nil, List.append_nil]
  | cons s ss ih =>
    have hi := ih (offered_step (s := s) h)
    rw [layout_step, functionName_step, List.append_assoc] at hi
    exact hi

theorem flushes_after (l : Listing) (ss : List Step) :
    (l.after ss).sink.flushes = l.sink.flushes +
      (ss.zip (l.steps ss)).countP fun (s, r) => s = .flush || s = .footer && r.2 := by
  induction ss generalizing l with
  | nil => rfl
  | cons s ss ih =>
    refine (ih _).trans ?_
    rw [flushes_step, steps, List.zip_cons_cons, List.countP_cons, Nat.add_right_comm, Nat.add_assoc]
    simp

theorem take_steps (l : Listing) (ss : List Step) (n : Nat) :
    l.steps (ss.take n) = (l.steps ss).take n := by
  induction ss generalizing l n with
  | nil => rw [List.take_nil, steps, List.take_nil]
  | cons s ss ih =>
    cases n with
    | zero => rfl
    | succ n => rw [List.take_succ_cons, steps, steps, List.take_succ_cons, ih]

theorem getElem?_steps_of (l : Listing) {ss : List Step} {i : Nat} {s : Step} (h : ss[i]? = some s) :
    (l.steps ss)[i]? = some (l.after (ss.take (i + 1)), ((l.after (ss.take i)).step s).2) := by
  rw [getElem?_steps, h, List.take_add_one, h, after, after, List.foldl_append]
  rfl

end Runs

section Bounded

/-- The bytes of each of several steps into a new listing. -/
def bytesOf (layout : Layout) (ss : List Step) : List (List UInt8) :=
  (Step.texts layout defaultFunctionName ss).map Text.utf8

variable (layout : Layout)

theorem take_bytesOf (ss : List Step) (n : Nat) : (bytesOf layout ss).take n = bytesOf layout (ss.take n) := by
  rw [bytesOf, bytesOf, Step.take_texts, List.map_take]

theorem getElem?_bytesOf (ss : List Step) (i : Nat) :
    (bytesOf layout ss)[i]? =
      ss[i]?.map fun s => (s.text layout ((ss.take i).foldl Step.rename defaultFunctionName)).utf8 := by
  rw [bytesOf, List.getElem?_map, Step.getElem?_texts, Option.map_map]
  rfl

theorem flatten_take_bytesOf {ss : List Step} {i : Nat} {own : List UInt8}
    (h : (bytesOf layout ss)[i]? = some own) :
    ((bytesOf layout ss).take (i + 1)).flatten = ((bytesOf layout ss).take i).flatten ++ own := by
  rw [List.take_add_one, h, List.flatten_append]
  exact congrArg _ (List.append_nil own)

theorem contents_after_into (capacity : Option Nat) (ss : List Step) :
    ((into (Sink.ofCapacity capacity) layout).after ss).sink.contents =
      Sink.cut capacity (bytesOf layout ss).flatten := by
  have h := offered_after (l := into (Sink.ofCapacity capacity) layout) (Sink.offered_ofCapacity capacity) ss
  rwa [Sink.Offered, capacity_after] at h

/-- A step is complete if it has nothing to write or if all written so far has room. -/
theorem complete_step_after (capacity : Option Nat) {ss : List Step} {i : Nat} {s : Step}
    (h : ss[i]? = some s) {own : List UInt8} (ho : (bytesOf layout ss)[i]? = some own) :
    (((into (Sink.ofCapacity capacity) layout).after (ss.take i)).step s).2 = true ↔
      own = [] ∨ ∀ n ∈ capacity, ((bytesOf layout ss).take (i + 1)).flatten.length ≤ n := by
  have hoffered : ((into (Sink.ofCapacity capacity) layout).after (ss.take i)).sink.Offered
      (bytesOf layout (ss.take i)).flatten :=
    offered_after (l := into (Sink.ofCapacity capacity) layout) (Sink.offered_ofCapacity capacity) _
  have hs : (s.text layout ((ss.take i).foldl Step.rename defaultFunctionName)).utf8 = own := by
    rw [getElem?_bytesOf, h] at ho
    exact Option.some.inj ho
  rw [complete_step, layout_after, functionName_after]
  refine (hoffered.write_complete_iff _).trans ?_
  rw [capacity_after, flatten_take_bytesOf layout ho, take_bytesOf, ← hs]
  rfl

theorem length_bytesOf (ss : List Step) : (bytesOf layout ss).length = ss.length := by
  rw [bytesOf, List.length_map, Step.length_texts]

theorem bytesOf_append (before behind : List Step) :
    bytesOf layout (before ++ behind) =
      bytesOf layout before ++
        (Step.texts layout (before.foldl Step.rename defaultFunctionName) behind).map Text.utf8 := by
  rw [bytesOf, Step.texts_append, List.map_append]
  rfl

/-- Giving a function name changes nothing but headers. -/
theorem getElem?_bytesOf_behind (before : List Step) (name : Text) {behind : List Step} {i : Nat} {s : Step}
    (hi : behind[i]? = some s) (hs : s ≠ .header) :
    (bytesOf layout (before ++ .functionName name :: behind))[before.length + 1 + i]? =
      (bytesOf layout (before ++ behind))[before.length + i]? := by
  have hnamed : (before ++ .functionName name :: behind)[before.length + 1 + i]? = some s := by
    rw [Nat.add_assoc, List.getElem?_append_right (Nat.le_add_right ..), Nat.add_sub_cancel_left,
      Nat.add_comm 1, List.getElem?_cons_succ, hi]
  have hunnamed : (before ++ behind)[before.length + i]? = some s := by
    rw [List.getElem?_append_right (Nat.le_add_right ..), Nat.add_sub_cancel_left, hi]
  rw [getElem?_bytesOf, getElem?_bytesOf, hnamed, hunnamed, Option.map_some, Option.map_some,
    Step.text_congr layout _ hs]

/-- A limit cuts off what steps in any order would write without it: a step fails if some of its own bytes
have no room, and is flushed only if it does not fail. Another function name changes only later headers. -/
theorem steps_truncate (c : Nat) (ss : List Step) :
    let u := bytesOf layout ss
    let free := (into (Sink.ofCapacity none) layout).steps ss
    let limited := (into (Sink.ofCapacity (some c)) layout).steps ss
    u.length = ss.length ∧
    (∀ i own, u[i]? = some own →
      let all := (u.take (i + 1)).flatten
      (∃ l, free[i]? = some (l, true) ∧ l.sink.contents = all) ∧
      ∃ l complete, limited[i]? = some (l, complete) ∧
        l.sink.contents = all.take (min c all.length) ∧
        (complete = false ↔ own ≠ [] ∧ c < all.length) ∧
        l.sink.flushes =
          ((ss.zip limited).take (i + 1)).countP fun (s, r) => s = .flush || s = .footer && r.2) ∧
    (∀ i : Nat, ss[i]? = some .header →
      u[i]? = some (layout.header ((ss.take i).foldl Step.rename defaultFunctionName)).utf8) ∧
    (∀ before name behind, ss = before ++ .functionName name :: behind →
      let w := bytesOf layout (before ++ behind)
      u.take before.length = w.take before.length ∧ u[before.length]? = some [] ∧
      ∀ (i : Nat) (s : Step), behind[i]? = some s → s ≠ .header →
        u[before.length + 1 + i]? = w[before.length + i]?) := by
  refine ⟨?_, fun i own ho => ?_, fun i hi => ?_, ?_⟩
  · exact length_bytesOf layout ss
  · obtain ⟨s, hs⟩ : ∃ s, ss[i]? = some s := by
      rw [getElem?_bytesOf, Option.map_eq_some_iff] at ho
      exact ho.imp fun s h => h.1
    have hfree := (complete_step_after layout none hs ho).mpr (.inr (by simp))
    refine ⟨⟨_, hfree ▸ getElem?_steps_of _ hs, ?_⟩, _, _, getElem?_steps_of _ hs, ?_, ?_, ?_⟩
    · rw [contents_after_into, take_bytesOf]
      rfl
    · rw [contents_after_into, take_bytesOf, Sink.cut, ← List.take_eq_take_min]
    · rw [← Bool.not_eq_true, complete_step_after layout (some c) hs ho]
      simp only [Option.mem_some_iff, forall_eq', not_or, Nat.not_le, ne_eq]
    · rw [flushes_after, take_steps, List.zip_eq_zipWith, List.zip_eq_zipWith, List.take_zipWith]
      exact Nat.zero_add _
  · rw [getElem?_bytesOf, hi]
    rfl
  · rintro before name behind rfl w
    have hl : before.length = (bytesOf layout before).length := (length_bytesOf layout before).symm
    have hw : w = _ := bytesOf_append layout before behind
    refine ⟨?_, ?_, fun i s hi hs => getElem?_bytesOf_behind layout before name hi hs⟩
    · rw [bytesOf_append, hw, hl, List.take_left, List.take_left]
    · rw [getElem?_bytesOf, List.getElem?_append_right (Nat.le_refl _), Nat.sub_self]
      rfl

end Bounded

end FlagState.Listing
