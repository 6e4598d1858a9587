import FlagState.Journal
import FlagState.Text.Alphanumeric
import FlagState.Text.Blank

/-!
Which events are logged. A filter is a list of directives with commas between them, each a level, a target
or both; the directive with the longest target that an event's component begins with decides. In brackets a
directive may name a span, or in braces a detail that an event must have.
-/
namespace FlagState

/-- Events from the component paths that begin with `target` are logged down to `level`, or not at all.
An empty `detail` is asked of no event. The program has no spans, so that a directive for spans selects
nothing. -/
structure Directive where
  target : Text
  detail : Text
  forSpans : Bool
  level : Option Level
  deriving DecidableEq, Repr

abbrev LogFilter := List Directive

namespace Directive

/-- What is wrong with a directive. -/
inductive Mistake where
  | form
  | level
  deriving DecidableEq, Repr

def Mistake.message : Mistake → Text
  | form => "invalid filter directive"
  | level =>
    "error parsing level filter: expected one of \"off\", \"error\", \"warn\", \"info\", \"debug\", " ++
      "\"trace\", or a number 0-5"

/-- All events down to `level`. -/
def ofLevel (level : Option Level) : Directive := ⟨[], [], false, level⟩

def rank? (t : Text) : Option Nat :=
  let digits := (Text.after? ['+'] t).getD t
  if digits.isEmpty || !digits.all Char.isDigit then none
  else some (digits.foldl (fun n c => 10 * n + (c.toNat - '0'.toNat)) 0)

/-- Levels may be given by name in any case or by rank; `off` is rank zero. -/
def level? (t : Text) : Option (Option Level) :=
  let levels : List Level := [.error, .warn, .info, .debug, .trace]
  if t.map Char.toLower = "off" || rank? t = some 0 then some none
  else
    (levels.find? fun l => t.map Char.toLower = l.name.map Char.toLower || rank? t = some l.rank).map some

def mayBegin (c : Char) : Bool :=
  c = '[' || c = '-' || c = ':' || c = '_' || Text.isAlphanumeric c

/-- The inside of brackets: a span, a detail, and what follows the closing bracket. A detail of which a
value is asked is one of a span. -/
def inBrackets (t : Text) : Except Mistake ((Bool × Text) × Text) :=
  let isEnd (c : Char) : Bool := c = ']' || c = '\x7b'
  let span := t.takeWhile (!isEnd ·)
  match t.dropWhile (!isEnd ·) with
  | ']' :: rest => .ok ((true, []), rest)
  | _ :: rest =>
    let detail := rest.takeWhile (· ≠ '\x7d')
    match rest.dropWhile (· ≠ '\x7d') with
    | '\x7d' :: ']' :: rest =>
      if detail.isEmpty then .error .form
      else .ok ((!span.isEmpty || '=' ∈ detail, detail.takeWhile (· ≠ '=')), rest)
    | _ => .error .form
  | [] => .error .form

/-- What follows target and brackets: nothing, or an equals sign and a level. Without a level all is
logged. -/
def levelAfter : Text → Except Mistake (Option Level)
  | [] | ['='] => .ok (some .trace)
  | '=' :: t => (level? t).elim (.error .level) .ok
  | _ => .error .form

/-- A word is a level if it can be one, and else a target. Blanks belong to the word, and behind blanks no
level can be given. -/
def ofText (t : Text) : Except Mistake Directive :=
  if !((Text.skipBlanks t).head?.map mayBegin).getD false then .error .form
  else if (t.head?.map Text.isBlank).getD false && '=' ∈ t then .error .level
  else
    let isEnd (c : Char) : Bool := c = '=' || c = '['
    let target := t.takeWhile (!isEnd ·)
    match t.dropWhile (!isEnd ·) with
    | [] => .ok (((level? t).map ofLevel).getD ⟨t, [], false, some .trace⟩)
    | '[' :: rest => do
      let ((forSpans, detail), rest) ← inBrackets rest
      return ⟨target, detail, forSpans, ← levelAfter rest⟩
    | rest => return ⟨target, [], false, ← levelAfter rest⟩

def covers (d : Directive) (e : Event) : Bool :=
  !d.forSpans && d.target.isPrefixOf e.component.path &&
    (d.detail.isEmpty || d.detail = "message" || e.details.any (·.1 = d.detail))

/-- Longer targets are more special, and among equal ones those that ask for a detail, later names first. -/
def isMoreSpecial (d e : Directive) : Bool :=
  e.target.length < d.target.length ||
    (e.target.length = d.target.length && decide (e.detail < d.detail))

def admits (d : Directive) (e : Event) : Bool :=
  match d.level with
  | none => false
  | some l => e.level.rank ≤ l.rank

end Directive

namespace LogFilter

def pieces (t : Text) : List Text := (t.splitOn ',').filter (!·.isEmpty)

/-- Without any directive errors alone are logged. -/
def ofDirectives : List Directive → LogFilter
  | [] => [.ofLevel (some .error)]
  | d :: ds => d :: ds

/-- One wrong directive spoils the filter. -/
def ofText? (t : Text) : Option LogFilter := do
  return ofDirectives (← (pieces t).mapM fun p => (Directive.ofText p).toOption)

/-- Wrong directives are left out; they are listed beside the filter. -/
def ofTextLeniently (t : Text) : LogFilter × List (Text × Directive.Mistake) :=
  (ofDirectives ((pieces t).filterMap fun p => (Directive.ofText p).toOption),
    (pieces t).filterMap fun p =>
      match Directive.ofText p with
      | .ok _ => none
      | .error m => some (p, m))

/-- Of two covering directives that are equally special the later one decides. -/
def deciding (f : LogFilter) (e : Event) : Option Directive :=
  (f.filter (·.covers e)).foldl (fun best d =>
    match best with
    | some b => if b.isMoreSpecial d then some b else some d
    | none => some d) none

def admits (f : LogFilter) (e : Event) : Bool := ((f.deciding e).map (·.admits e)).getD false

end LogFilter
end FlagState
