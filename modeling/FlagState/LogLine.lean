import FlagState.Journal

/-!
Events as text: a line for people to read, or an object for other programs.
-/
namespace FlagState

/-- Text to be shown to people: characters that could command a terminal are given by their number. -/
def Text.shown (t : Text) : Text := t.flatMap fun c =>
  if c ∈ ['\x07', '\x08', '\x0c', '\x1b', '\x7f'] then
    "\\x" ++ (Nat.toDigits 16 (0x100 + c.toNat)).drop 1
  else if 0x80 ≤ c.toNat && c.toNat ≤ 0x9F then "\\u\x7b" ++ Nat.toDigits 16 c.toNat ++ ['\x7d']
  else [c]

/-- Control characters without a short form are written by their number. -/
def Text.escapeChar (c : Char) : Text :=
  if c = '"' then "\\\""
  else if c = '\\' then "\\\\"
  else if c = '\x08' then "\\b"
  else if c = '\x0c' then "\\f"
  else if c = '\n' then "\\n"
  else if c = '\t' then "\\t"
  else if c = '\r' then "\\r"
  else if c < ' ' then "\\u" ++ (Nat.toDigits 16 (0x10000 + c.toNat)).drop 1
  else [c]

def Text.quoted (t : Text) : Text := '"' :: t.flatMap escapeChar ++ ['"']

namespace Event

open Text (quoted decimal)

def detailText : Detail → Text
  | .text t => t
  | .label t => quoted t
  | .number n => decimal n

/-- Levels take five columns and end in line. -/
def levelColumn (l : Level) : Text := List.replicate (5 - l.name.length) ' ' ++ l.name

/-- The line without the time that stands before it. -/
def line (e : Event) : Text :=
  levelColumn e.level ++ " " ++ e.component.path ++ ": " ++ e.message.shown ++
    e.details.flatMap fun (name, d) => ' ' :: name ++ '=' :: detailText d

def detailObject : Detail → Text
  | .text t | .label t => quoted t
  | .number n => decimal n

def member (name value : Text) : Text := quoted name ++ ':' :: value

def braced (members : List Text) : Text := '\x7b' :: Text.join ',' members ++ ['\x7d']

/-- One object with the time of the event. -/
def object (time : Text) (e : Event) : Text :=
  braced [member "timestamp" (quoted time), member "level" (quoted e.level.name),
    member "fields" (braced (member "message" (quoted e.message) ::
      e.details.map fun (name, d) => member name (detailObject d))),
    member "target" (quoted e.component.path)]

end Event
end FlagState
