import FlagState.Text

/-!
What it takes to decide statements about long tables of texts: a text is computed before it is used
(`computed`), and whether it can hold another one shows in the characters of both (`charBits`).
-/
namespace FlagState.Text

variable {α β : Type}

/-- `f as`, where `as` is computed before `f` looks at it. Deciding would compute it anew at every use. -/
def computed (f : List α → β) : List α → β
  | [] => f []
  | a :: as => computed (fun bs => f (a :: bs)) as

theorem computed_eq (f : List α → β) (as : List α) : computed f as = f as := by
  induction as generalizing f with
  | nil => rfl
  | cons a as ih => rw [computed, ih]

/-- The same for every text of a list. -/
def computedAll (f : List Text → β) : List Text → β
  | [] => f []
  | t :: ts => computed (fun u => computedAll (fun us => f (u :: us)) ts) t

theorem computedAll_eq (f : List Text → β) (ts : List Text) : computedAll f ts = f ts := by
  induction ts generalizing f with
  | nil => rfl
  | cons t ts ih => rw [computedAll, computed_eq, ih]

/-- The characters of a text as the bits of a number. -/
def charBits (t : Text) : Nat := t.foldr (fun c bits => bits ||| 1 <<< c.toNat) 0

theorem testBit_charBits {t : Text} {i : Nat} : (charBits t).testBit i = true ↔ ∃ c ∈ t, c.toNat = i := by
  induction t with
  | nil => simp [charBits]
  | cons c t ih =>
    have hc : charBits (c :: t) = charBits t ||| 1 <<< c.toNat := rfl
    rw [hc, Nat.testBit_or, Bool.or_eq_true, ih, Nat.one_shiftLeft, Nat.testBit_two_pow, decide_eq_true_eq]
    simp [or_comm]

theorem not_mem_of_testBit_charBits {t : Text} {c : Char} (h : (charBits t).testBit c.toNat = false) :
    c ∉ t := by
  intro hc
  rw [testBit_charBits.mpr ⟨c, hc, rfl⟩] at h
  cases h

theorem charBits_and_of_isInfix {part t : Text} (h : part <:+: t) :
    part.charBits &&& t.charBits = part.charBits := by
  refine Nat.eq_of_testBit_eq fun i => ?_
  rw [Nat.testBit_and, Bool.and_eq_left_iff_imp]
  intro hp
  obtain ⟨c, hc, hi⟩ := testBit_charBits.mp hp
  exact testBit_charBits.mpr ⟨c, h.subset hc, hi⟩

/-- Texts of different characters are told apart without comparing them. -/
def isOneOf (ts : List Text) (u : Text) : Bool := ts.any fun t => Nat.beq t.charBits u.charBits && t == u

theorem mem_of_isOneOf {ts : List Text} {u : Text} (h : isOneOf ts u = true) : u ∈ ts := by
  obtain ⟨t, ht, hu⟩ := List.any_eq_true.mp h
  rw [Bool.and_eq_true, beq_iff_eq] at hu
  exact hu.2 ▸ ht

end FlagState.Text
