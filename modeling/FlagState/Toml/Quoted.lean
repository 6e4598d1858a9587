import FlagState.Toml.Reader

/-!
Quoted texts and keys. Double quotes allow escapes, single quotes none; tripled quotes allow line ends and
up to two quotes in a row, also right before the closing ones.
-/
namespace FlagState.Toml.Reader

def isHexadecimal (c : Char) : Bool :=
  c.isDigit || ('a' ≤ c && c ≤ 'f') || ('A' ≤ c && c ≤ 'F')

def hexadecimalValue (c : Char) : Nat :=
  if c.isDigit then c.toNat - '0'.toNat else c.toLower.toNat - 'a'.toNat + 10

/-- The number that digits of a base denote. -/
def valueIn (base : Nat) (digits : Text) : Nat :=
  digits.foldl (fun n c => n * base + hexadecimalValue c) 0

/-- A character given by `n` hexadecimal digits; surrogates are no characters. -/
def codePoint (n : Nat) : Reader Char := do
  let code := valueIn 16 (← exactly isHexadecimal n)
  if code.isValidChar then return Char.ofNat code else failure

def escape : Reader Char := do
  char '\\'
  match ← satisfy fun _ => true with
  | 'b' => return '\x08'
  | 't' => return '\t'
  | 'n' => return '\n'
  | 'f' => return '\x0c'
  | 'r' => return '\r'
  | '"' => return '"'
  | '\\' => return '\\'
  | 'u' => codePoint 4
  | 'U' => codePoint 8
  | _ => failure

def basicPiece : Reader Text :=
  takeWhile1 (fun c => isInline c && c != '"' && c != '\\') <|> (return [← escape])

def basicText : Reader Text := do
  char '"'
  let pieces ← many basicPiece
  char '"'
  return pieces.flatten

def literalText : Reader Text := do
  char '\''
  let t ← takeWhile fun c => isInline c && c != '\''
  char '\''
  return t

/-- Every line end reads as a line feed. -/
def lineFeed : Reader Text := newline *> return ['\n']

/-- A backslash at the end of a line takes away all blanks and line ends behind it. -/
def joinedLine : Reader Text := do
  char '\\'
  spaces
  newline
  discard (many (discard (takeWhile1 isSpace) <|> newline))
  return []

/-- One or two quotes that no third one follows. -/
def loneQuotes (quote : Char) : Reader Text := do
  let quotes ← takeWhile1 (· = quote)
  if quotes.length ≤ 2 then return quotes else failure

/-- Three quotes, and up to two before them that belong to the text. -/
def closingQuotes (quote : Char) : Reader Text := do
  let quotes ← takeWhile1 (· = quote)
  if 3 ≤ quotes.length && quotes.length ≤ 5 then return quotes.drop 3 else failure

/-- A text between tripled quotes; a line end right behind the opening ones does not count. -/
def tripled (quote : Char) (piece : Reader Text) : Reader Text := do
  literal [quote, quote, quote]
  discard (optional newline)
  let pieces ← many (piece <|> loneQuotes quote)
  return pieces.flatten ++ (← closingQuotes quote)

def longBasicText : Reader Text := tripled '"' (basicPiece <|> lineFeed <|> joinedLine)

def longLiteralText : Reader Text :=
  tripled '\'' (takeWhile1 (fun c => isInline c && c != '\'') <|> lineFeed)

def quotedText : Reader Text := longBasicText <|> basicText <|> longLiteralText <|> literalText

def isBare (c : Char) : Bool := c.isAlphanum || c = '_' || c = '-'

def simpleKey : Reader Text := takeWhile1 isBare <|> basicText <|> literalText

end Reader

/-- A name and the names of the tables around it, outermost first. -/
structure Key where
  path : List Text
  name : Text

/-- Keys and brackets nest less than this many levels. -/
def nestingLimit : Nat := 80

/-- The parts of a dotted key, with blanks around each. -/
def Reader.key : Reader Key := do
  let parts ← sepBy1 (spaces *> simpleKey <* spaces) (char '.')
  match parts.getLast? with
  | some name => if parts.length < nestingLimit then return ⟨parts.dropLast, name⟩ else failure
  | none => failure

end FlagState.Toml
