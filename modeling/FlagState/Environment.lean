import FlagState.FileSystem
import FlagState.Text.Alphanumeric
import FlagState.Text.Blank

/-!
Variables, with those that a file `.env` adds: a line each of a name, an equals sign and a value that may be
quoted and may use earlier variables. A variable that is already set keeps its value, and reading ends at
the first line that is wrong.
-/
namespace FlagState

abbrev Variables := List (Text × Text)

namespace Environment

def file : Text := ".env"

/-- How the next character of a value is to be taken; `inQuotes` tells whether double quotes are open. -/
inductive Mode where
  | plain (inQuotes : Bool)
  | escaped (inQuotes : Bool)
  | singleQuotes
  /-- Inside the name of a variable, of which `name` was read. -/
  | name (inQuotes : Bool) (name : Text)
  | bracedName (inQuotes : Bool) (name : Text)
  /-- Behind the value only blanks and a comment may follow. -/
  | ended

/-- A variable is kept as its name, an equals sign and its value, and is found by what stands before any
equals sign of these. -/
def valueOf (vars : Variables) (name : Text) : Text :=
  (vars.findSome? fun (key, value) => Text.after? (name ++ ['=']) (key ++ '=' :: value)).getD []

/-- Reads a value; the character that ends a variable's name is taken as it is, unless it starts a
further one. -/
def value? (vars : Variables) : Mode → Text → Option Text
  | .plain inQuotes, [] => if inQuotes then none else some []
  | .escaped inQuotes, [] => if inQuotes then none else some []
  | .singleQuotes, [] => none
  | .name inQuotes name, [] => if inQuotes then none else some (valueOf vars name)
  | .bracedName .., [] => none
  | .ended, [] => some []
  | .ended, c :: t =>
    if c = ' ' || c = '\t' then value? vars .ended t
    else if c = '#' then some []
    else none
  | .escaped inQuotes, c :: t =>
    if c = '\\' || c = '\'' || c = '"' || c = '$' || c = ' ' then
      (value? vars (.plain inQuotes) t).map (c :: ·)
    else if c = 'n' then (value? vars (.plain inQuotes) t).map ('\n' :: ·)
    else none
  | .singleQuotes, c :: t =>
    if c = '\'' then value? vars (.plain false) t else (value? vars .singleQuotes t).map (c :: ·)
  | .name inQuotes name, c :: t =>
    if Text.isAlphanumeric c then value? vars (.name inQuotes (name ++ [c])) t
    else if c = '\x7b' && name.isEmpty then value? vars (.bracedName inQuotes []) t
    else if c = '$' then (value? vars (.name inQuotes []) t).map (valueOf vars name ++ ·)
    else (value? vars (.plain inQuotes) t).map fun rest => valueOf vars name ++ c :: rest
  | .bracedName inQuotes name, c :: t =>
    if c = '\x7d' then (value? vars (.plain inQuotes) t).map (valueOf vars name ++ ·)
    else value? vars (.bracedName inQuotes (name ++ [c])) t
  | .plain inQuotes, c :: t =>
    if c = '$' then value? vars (.name inQuotes []) t
    else if c = '\\' then value? vars (.escaped inQuotes) t
    else if c = '"' then value? vars (.plain !inQuotes) t
    else if inQuotes then (value? vars (.plain true) t).map (c :: ·)
    else if c = '\'' then value? vars .singleQuotes t
    else if c = ' ' || c = '\t' then value? vars .ended t
    else (value? vars (.plain false) t).map (c :: ·)

def isNameStart (c : Char) : Bool := c.isAlpha || c = '_'

def isNameRest (c : Char) : Bool := c.isAlphanum || c = '_' || c = '.'

/-- A name at the head of a text, and what follows it and the blanks behind it. -/
def name? (t : Text) : Option (Text × Text) :=
  if (t.head?.map isNameStart).getD false then
    some (t.takeWhile isNameRest, Text.skipBlanks (t.dropWhile isNameRest))
  else none

/-- A name and what follows the equals sign; the word `export` may stand before the name. -/
def binding? (t : Text) : Option (Text × Text) := do
  let (name, rest) ← name? t
  match rest with
  | '=' :: rest => return (name, rest)
  | _ =>
    if name = "export" then
      let (name, rest) ← name? rest
      match rest with
      | '=' :: rest => return (name, rest)
      | _ => none
    else none

def dropBlanksAtEnd (t : Text) : Text := (Text.skipBlanks t.reverse).reverse

def isComment (t : Text) : Bool := t.isEmpty || t.head? = some '#'

/-- What the variables are after a line; nothing if the line is wrong. -/
def addLine? (vars : Variables) (line : Text) : Option Variables :=
  let line := Text.skipBlanks (dropBlanksAtEnd line)
  if isComment line then some vars
  else do
    let (name, rest) ← binding? line
    let rest := Text.skipBlanks rest
    let value ← if isComment rest then some [] else value? vars (.plain false) rest
    return if (vars.lookup name).isSome then vars else vars ++ [(name, value)]

/-- Lines that are no text end the reading as wrong ones do. -/
def addLines (vars : Variables) : List (List UInt8) → Variables
  | [] => vars
  | line :: lines =>
    match (Text.ofUtf8? line).bind (addLine? vars) with
    | some vars => addLines vars lines
    | none => vars

/-- All that a file could use as a name of a variable; in braces that is any text. -/
def possibleNames (t : Text) : List Text :=
  (Text.lines t).flatMap fun line =>
    runs isNameRest [] line ++ runs Text.isAlphanumeric [] line ++
      runs (fun c => c ≠ '\x7b' && c ≠ '\x7d') [] line
where
  runs (p : Char → Bool) (current : Text) : Text → List Text
    | [] => [current.reverse]
    | c :: t => if p c then runs p (c :: current) t else current.reverse :: runs p [] t

/-- The places of the file, in the working directory first and then upwards. -/
def candidates (fs : FileSystem) : List Text :=
  (List.range (fs.workingDirectory.length + 1)).map fun n =>
    (List.replicate n ("../" : Text)).flatten ++ file

/-- The nearest file is used; without one the variables stay as they are. -/
def load (fs : FileSystem) (vars : Variables) : Variables :=
  match (candidates fs).findSome? fun path => (fs.read path).toOption with
  | some content => addLines vars (content.splitOn 10)
  | none => vars

end Environment
end FlagState
