import FlagState.Toml.Moment
import FlagState.Toml.Number
import FlagState.Toml.Value

/-!
Documents of TOML 1.0: items at the top, then sections, each a header and its items. A document is read
line by line and then put together; `Document.ofText?` refuses what breaks a rule of either step.
-/
namespace FlagState.Toml

namespace Reader

def boolean : Reader Bool := (literal "true" *> return true) <|> (literal "false" *> return false)

def scalar : Reader Scalar :=
  (moment *> return .moment) <|> (float *> return .float) <|> (.integer <$> integer) <|>
    (.boolean <$> boolean)

/-- Elements may stand on lines of their own, and a comma may follow the last one. -/
def array (element : Reader Value) : Reader (List Value) := do
  char '['
  gap
  let elements ← optional (sepBy1 (element <* gap) (char ',' *> gap))
  match elements with
  | none => char ']'
  | some _ => discard (optional (char ',' *> gap)) *> char ']'
  return elements.getD []

def item (value : Reader Value) : Reader (Key × Value) := do
  let key ← key
  char '='
  spaces
  return (key, ← value)

/-- Items in braces, on one line and with no comma behind the last one. -/
def inlineTable (value : Reader Value) : Reader Items := do
  char '\x7b'
  spaces
  let items ← sepBy (item value <* spaces) (char ',')
  char '\x7d'
  Items.addAll [] items

/-- A value with at most `depth` brackets and braces around its innermost part. -/
def valueWithin : Nat → Reader Value
  | 0 => plain
  | depth + 1 =>
    plain <|> (.array <$> array (valueWithin depth)) <|>
      (.table .inline <$> inlineTable (valueWithin depth))
where
  plain : Reader Value := (.text <$> quotedText) <|> (.scalar <$> scalar)

def value : Reader Value := valueWithin (nestingLimit - 1)

end Reader

inductive Header where
  | table (key : Key)
  | tables (key : Key)

inductive Line where
  | blank
  | item (key : Key) (v : Value)
  | header (h : Header)

namespace Reader

def header : Reader Header :=
  (.tables <$> (literal "[[" *> key <* literal "]]")) <|> (.table <$> (char '[' *> key <* char ']'))

def line : Reader Line := do
  spaces
  let content ← optional ((.header <$> header) <|> (fun (k, v) => .item k v) <$> item value)
  lineEnd
  return content.getD .blank

/-- A byte order mark at the start is passed over. -/
def document : Reader (List Line) := discard (optional (char '\uFEFF')) *> many line

end Reader

namespace Items

/-- Opens a table that no header opened before, or adds one to those under double brackets. -/
def addSection (items : Items) (content : List (Key × Value)) : Header → Option Items
  | .table key => items.changeAt false (openTable key.name) key.path .header
  | .tables key => items.changeAt false (addTable key.name) key.path .header
where
  openTable (name : Text) (_ : Origin) (outer : Items) : Option Items := do
    let start ← match outer.lookup name with
      | none => some []
      | some (.table .implied inner) => some inner
      | some _ => none
    return outer.set name (.table .header (← Items.addAll start content))
  addTable (name : Text) (_ : Origin) (outer : Items) : Option Items := do
    let before ← match outer.lookup name with
      | none => some []
      | some (.tables elements) => some elements
      | some _ => none
    return outer.set name (.tables (before ++ [← Items.addAll [] content]))

end Items

namespace Document

/-- The items before the first header, and each header with the items behind it. -/
def sections : List Line → List (Key × Value) × List (Header × List (Key × Value))
  | [] => ([], [])
  | .blank :: lines => sections lines
  | .item key v :: lines =>
    let (top, rest) := sections lines
    ((key, v) :: top, rest)
  | .header h :: lines =>
    let (top, rest) := sections lines
    ([], (h, top) :: rest)

def ofLines? (lines : List Line) : Option Items := do
  let (top, rest) := sections lines
  rest.foldlM (fun items (h, content) => items.addSection content h) (← Items.addAll [] top)

def ofText? (t : Text) : Option Items := do ofLines? (← Reader.document.run? t)

end Document
end FlagState.Toml
