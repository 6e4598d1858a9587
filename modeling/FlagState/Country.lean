import FlagState.Text.Blank

/-!
Country code rows: a name, a code of two letters, a code of three letters and a number, with blanks
between them.
-/
namespace FlagState

structure Country where
  name : Text
  alpha2 : Text
  alpha3 : Text
  numeric : Text
  deriving DecidableEq, Repr

namespace Country

/-- The row as tables publish it. -/
def row (c : Country) : Text :=
  c.name ++ " \t" ++ c.alpha2 ++ " \t" ++ c.alpha3 ++ " \t" ++ c.numeric

def isLetter (c : Char) : Bool := 'A' ≤ c && c ≤ 'Z'

def isNumeral (c : Char) : Bool := '0' ≤ c && c ≤ '9'

/-- Exactly `n` letters at the head of a text, and the rest. -/
def letters? : Nat → Text → Option (Text × Text)
  | 0, t => some ([], t)
  | _ + 1, [] => none
  | n + 1, c :: t =>
    if isLetter c then (letters? n t).map fun (letters, rest) => (c :: letters, rest) else none

/-- The number ends the row, but for blanks. -/
def number? (t : Text) : Option Text :=
  let digits := t.takeWhile isNumeral
  if digits.isEmpty then none
  else if (t.dropWhile isNumeral).all Text.isBlank then some digits
  else none

/-- The codes that follow the name `name`, each behind at least one blank. -/
def withCodes? (name : Text) (t : Text) : Option Country := do
  let (alpha2, t) ← letters? 2 (← Text.afterBlanks? t)
  let (alpha3, t) ← letters? 3 (← Text.afterBlanks? t)
  let numeric ← number? (← Text.afterBlanks? t)
  return ⟨name, alpha2, alpha3, numeric⟩

/-- The shortest name that codes follow is taken; a name stays on one line. -/
def ofLine? : Text → Option Country
  | [] => none
  | c :: t =>
    match withCodes? [] (c :: t) with
    | some country => some country
    | none =>
      if c = '\n' then none
      else (ofLine? t).map fun country => { country with name := c :: country.name }

/-- What a line of a table is. -/
inductive Row where
  | blank
  | country (c : Country)
  | malformed
  deriving DecidableEq, Repr

/-- Only the empty line is blank. -/
def Row.ofLine (line : Text) : Row :=
  if line.isEmpty then .blank
  else
    match ofLine? line with
    | some c => .country c
    | none => .malformed

end Country
end FlagState
