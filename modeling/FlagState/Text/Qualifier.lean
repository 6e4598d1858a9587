import FlagState.Text.Substitution

/-!
Qualifiers such as ` (Republic of)`: a space, an opening parenthesis, and all up to the first closing
parenthesis on the same line.
-/
namespace FlagState.Text

/-- How many characters stand before the first `)`, none of them a line feed. -/
def beforeClosing? : Text → Option Nat
  | [] => none
  | c :: t =>
    if c = ')' then some 0
    else if c = '\n' then none
    else (beforeClosing? t).map (· + 1)

def findQualifier : Finder
  | _, ' ' :: '(' :: t => (beforeClosing? t).map fun n => ⟨n + 2, []⟩
  | _, _ => none

def dropQualifiers (t : Text) : Text := substitute findQualifier t

end FlagState.Text
