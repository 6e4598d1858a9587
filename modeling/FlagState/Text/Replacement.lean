import FlagState.Text.Substitution

/-!
Replacing one text by another without undoing or repeating earlier work: where the new text holds the
old one, an occurrence of the old text that already lies in the new text is kept.
-/
namespace FlagState.Text

/-- Passes over `skip` characters and then lists the occurrences of `part`, counted from `pos`. -/
def occurrencesFrom (part : Text) (skip pos : Nat) : Text → List Nat
  | [] => []
  | c :: t =>
    match skip with
    | n + 1 => occurrencesFrom part n (pos + 1) t
    | 0 =>
      if part.isPrefixOf (c :: t) then
        pos :: occurrencesFrom part (part.length - 1) (pos + 1) t
      else occurrencesFrom part 0 (pos + 1) t

/-- Where `part` occurs in a text, from the left, no occurrence overlapping the one before it. -/
def occurrences (part t : Text) : List Nat := occurrencesFrom part 0 0 t

/-- Whether `new` stands around a place so that one of its occurrences of `old` begins there. -/
def liesWithin (old new behind ahead : Text) : Bool :=
  (occurrences old new).any fun k =>
    (new.take k).reverse.isPrefixOf behind && (new.drop k).isPrefixOf ahead

def findUnlessWithin (old new : Text) : Finder := fun behind ahead =>
  if old.isPrefixOf ahead then
    some ⟨old.length - 1, if liesWithin old new behind ahead then old else new⟩
  else none

/-- The empty text is never replaced. -/
def replaceUnlessWithin (old new t : Text) : Text :=
  if old.isEmpty then t else substitute (findUnlessWithin old new) t

end FlagState.Text
