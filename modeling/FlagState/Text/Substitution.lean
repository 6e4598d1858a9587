import FlagState.Text

/-!
One pass over a text from the left that replaces what a rule finds. A find is passed over as a whole,
so that finds do not overlap and nothing that was inserted is looked at again.
-/
namespace FlagState.Text

/-- A find of `more + 1` characters, and what stands there afterwards. -/
structure Hit where
  more : Nat
  insert : Text

/-- A rule sees what lies behind a place, nearest character first, and what lies ahead of it. -/
abbrev Finder := (behind ahead : Text) → Option Hit

/-- Passes over `skip` characters before it begins. -/
def substituteFrom (find : Finder) (skip : Nat) (behind : Text) : Text → Text
  | [] => []
  | c :: ahead =>
    match skip with
    | n + 1 => substituteFrom find n (c :: behind) ahead
    | 0 =>
      match find behind (c :: ahead) with
      | some hit => hit.insert ++ substituteFrom find hit.more (c :: behind) ahead
      | none => c :: substituteFrom find 0 (c :: behind) ahead

def substitute (find : Finder) (t : Text) : Text := substituteFrom find 0 [] t

theorem substituteFrom_skip (find : Finder) (n : Nat) (behind t : Text) :
    substituteFrom find n behind t = substituteFrom find 0 ((t.take n).reverse ++ behind) (t.drop n) := by
  induction t generalizing n behind with
  | nil => simp [substituteFrom]
  | cons c t ih =>
    cases n with
    | zero => rfl
    | succ n => rw [substituteFrom, ih]; simp

theorem substituteFrom_of_hit {find : Finder} {behind : Text} {c : Char} {ahead : Text} {hit : Hit}
    (h : find behind (c :: ahead) = some hit) :
    substituteFrom find 0 behind (c :: ahead) =
      hit.insert ++ substituteFrom find hit.more (c :: behind) ahead := by
  simp [substituteFrom, h]

theorem substituteFrom_of_none {find : Finder} {behind : Text} {c : Char} {ahead : Text}
    (h : find behind (c :: ahead) = none) :
    substituteFrom find 0 behind (c :: ahead) = c :: substituteFrom find 0 (c :: behind) ahead := by
  simp [substituteFrom, h]

end FlagState.Text
