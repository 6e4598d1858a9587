import FlagState.Text

/-!
Readers take a piece off the head of a text or refuse. Alternatives are tried in order, each from the same
place, and repetition ends where a round takes nothing, so that every reader is total.
-/
namespace FlagState.Toml

abbrev Reader := StateT Text Option

namespace Reader

variable {α : Type}

def satisfy (p : Char → Bool) : Reader Char
  | [] => none
  | c :: t => if p c then some (c, t) else none

def char (c : Char) : Reader Unit := discard (satisfy (· = c))

def literal (l : Text) : Reader Unit := fun t => (Text.after? l t).map ((), ·)

/-- Possibly no characters at all. -/
def takeWhile (p : Char → Bool) : Reader Text := fun t => some (t.takeWhile p, t.dropWhile p)

def takeWhile1 (p : Char → Bool) : Reader Text := do
  let c ← satisfy p
  return c :: (← takeWhile p)

def exactly (p : Char → Bool) (n : Nat) : Reader Text :=
  match n with
  | 0 => return []
  | n + 1 => do
    let c ← satisfy p
    return c :: (← exactly p n)

def atEnd : Reader Unit := fun t => if t.isEmpty then some ((), t) else none

/-- At most `n` rounds. -/
def manyUpTo (r : Reader α) : Nat → Reader (List α)
  | 0 => return []
  | n + 1 => fun t =>
    match r t with
    | none => some ([], t)
    | some (a, rest) =>
      if rest.length < t.length then (manyUpTo r n rest).map fun (as, rest) => (a :: as, rest)
      else some ([], t)

/-- As many rounds as take something; there are no more of them than characters. -/
def many (r : Reader α) : Reader (List α) := fun t => manyUpTo r t.length t

/-- One item or more with separators between them. -/
def sepBy1 (item : Reader α) (separator : Reader Unit) : Reader (List α) := do
  let a ← item
  return a :: (← many (separator *> item))

def sepBy (item : Reader α) (separator : Reader Unit) : Reader (List α) :=
  sepBy1 item separator <|> pure []

/-- Takes the whole text. -/
def run? (r : Reader α) (t : Text) : Option α := ((r <* atEnd).run t).map (·.1)

/-! What separates tokens. -/

def isSpace (c : Char) : Bool := c = ' ' || c = '\t'

/-- Everything but control characters, of which only the tab may stand in a line. -/
def isInline (c : Char) : Bool := c = '\t' || (' ' ≤ c && c ≤ '~') || '\x80' ≤ c

def spaces : Reader Unit := discard (takeWhile isSpace)

/-- A carriage return counts only together with a line feed. -/
def newline : Reader Unit := char '\n' <|> literal "\r\n"

def comment : Reader Unit := do
  char '#'
  discard (takeWhile isInline)

/-- The end of a line, with blanks and a comment before it. -/
def lineEnd : Reader Unit := do
  spaces
  discard (optional comment)
  newline <|> atEnd

/-- Blanks, line ends and comments that a line end follows. -/
def gap : Reader Unit :=
  discard (many (discard (takeWhile1 isSpace) <|> (discard (optional comment) *> newline)))

end Reader
end FlagState.Toml
