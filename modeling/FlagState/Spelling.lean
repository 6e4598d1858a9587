import FlagState.Journal
import FlagState.Text.Qualifier
import FlagState.Text.Replacement

/-!
Rules that change the spelling of country names in a whole table. A rule set applies its rules in order,
so that a special rule has to stand before the general one that would spoil its text.
-/
namespace FlagState.Spelling

inductive Rule where
  /-- Removes every qualifier in parentheses, with the space before it. -/
  | dropQualifiers
  /-- Writes `new` for every `old` that is not yet part of a `new`. -/
  | replace (old new : Text)
  deriving DecidableEq, Repr

def Rule.apply : Rule → Text → Text
  | dropQualifiers, t => Text.dropQualifiers t
  | replace old new, t => Text.replaceUnlessWithin old new t

structure RuleSet where
  name : Text
  rules : List Rule

namespace RuleSet

def apply (s : RuleSet) (t : Text) : Text := s.rules.foldl (fun t rule => rule.apply t) t

/-- Applies the rules and notes that it was done. -/
def respell (s : RuleSet) (t : Text) : Noted Text := do
  Noted.event (.respelt s.name s.rules.length)
  return s.apply t

/-- The texts after each of `n` applications, each to the text of the one before. -/
def respellTimes (s : RuleSet) : Nat → Text → Noted (List Text)
  | 0, _ => return []
  | n + 1, t => do
    let t ← s.respell t
    return t :: (← respellTimes s n t)

/-- The texts after each single rule of one application. -/
def trace (s : RuleSet) (t : Text) : List Text := go s.rules t
where
  go : List Rule → Text → List Text
    | [], _ => []
    | rule :: rules, t => rule.apply t :: go rules (rule.apply t)

end RuleSet
end FlagState.Spelling
