import FlagState.Text

/-!
What a run notes while it works: events with a level, the component they come from and named details,
and steps of counters. A `Noted` value carries the notes of its making, oldest first.
-/
namespace FlagState

inductive Level where
  | error | warn | info | debug | trace
  deriving DecidableEq, Repr

namespace Level

/-- The most urgent level has the lowest rank. -/
def rank : Level → Nat
  | error => 1
  | warn => 2
  | info => 3
  | debug => 4
  | trace => 5

def name : Level → Text
  | error => "ERROR"
  | warn => "WARN"
  | info => "INFO"
  | debug => "DEBUG"
  | trace => "TRACE"

end Level

/-- The parts of the program that note events. -/
inductive Component where
  | spelling | reading | generation | destination | program
  deriving DecidableEq, Repr

/-- The dotted path under which a component's events can be selected. -/
def Component.path : Component → Text
  | spelling => "mid_to_iso3166::normalize"
  | reading => "mid_to_iso3166::parser"
  | generation => "mid_to_iso3166::generator"
  | destination => "mid_to_iso3166::output"
  | program => "mid_to_iso3166"

/-- A detail of an event. A label is quoted where details are shown in a line. -/
inductive Detail where
  | text (t : Text)
  | label (t : Text)
  | number (n : Nat)
  deriving DecidableEq, Repr

inductive Event where
  | respelt (ruleSet : Text) (rules : Nat)
  | misread (lineNumber : Nat) (line : Text)
  | replaced (country earlier later : Text)
  | indexed (countries misreadings : Nat)
  | allocationsRead (allocations : Nat)
  | matching (allocations countries : Nat)
  | unmatched (mid country : Text)
  | generated (arms suppressed : Nat)
  | writingTo (path : Text)
  | finished (active suppressed misreadings : Nat)
  deriving DecidableEq, Repr

namespace Event

def level : Event → Level
  | respelt .. | replaced .. | indexed .. | allocationsRead .. | writingTo .. => .debug
  | misread .. => .warn
  | unmatched .. => .error
  | matching .. | generated .. | finished .. => .info

def component : Event → Component
  | respelt .. => .spelling
  | misread .. | replaced .. | indexed .. | allocationsRead .. => .reading
  | matching .. | unmatched .. | generated .. => .generation
  | writingTo .. => .destination
  | finished .. => .program

open Text (decimal)

def message : Event → Text
  | respelt .. => "normalized table text"
  | misread _ line => "failed to parse ISO 3166 line: " ++ line
  | replaced _ earlier later => "replacing " ++ earlier ++ " with " ++ later
  | indexed countries misreadings =>
    "built ISO 3166 lookup: entries=" ++ decimal countries ++ " issues=" ++ decimal misreadings
  | allocationsRead n => "parsed MID table: records=" ++ decimal n
  | matching allocations countries =>
    "joining " ++ decimal allocations ++ " MID records against " ++ decimal countries ++
      " ISO 3166 entries"
  | unmatched _ country => "no ISO 3166 entry for " ++ country
  | generated arms suppressed =>
    "generated " ++ decimal arms ++ " mapping lines (" ++ decimal suppressed ++ " suppressed)"
  | writingTo path => "writing generated code to " ++ path
  | finished .. => "generation finished"

/-- The details beside the message, in the order in which they are shown. -/
def details : Event → List (Text × Detail)
  | respelt ruleSet rules => [("rule_set", .label ruleSet), ("rules", .number rules)]
  | misread lineNumber _ => [("line_number", .number lineNumber)]
  | replaced country _ _ => [("country", .text country)]
  | unmatched mid _ => [("mid", .text mid)]
  | finished active suppressed misreadings =>
    [("active", .number active), ("suppressed", .number suppressed),
      ("iso_issues", .number misreadings)]
  | indexed .. | allocationsRead .. | matching .. | generated .. | writingTo .. => []

end Event

inductive Counter where
  | activeArms | suppressedArms | misreadings | unmatchedCountries
  deriving DecidableEq, Repr

namespace Counter

def all : List Counter := [activeArms, suppressedArms, misreadings, unmatchedCountries]

/-- Name of the measured quantity and the labels in braces. -/
def name : Counter → Text
  | activeArms => "mid_to_iso3166_lines_emitted_total\x7bkind=active\x7d"
  | suppressedArms => "mid_to_iso3166_lines_emitted_total\x7bkind=suppressed\x7d"
  | misreadings => "mid_to_iso3166_iso_parse_failures_total\x7b\x7d"
  | unmatchedCountries => "mid_to_iso3166_unmatched_countries_total\x7b\x7d"

end Counter

inductive Note where
  | event (e : Event)
  | count (c : Counter)
  deriving DecidableEq, Repr

/-- Notes, oldest first. -/
abbrev Journal := List Note

namespace Journal

def events (j : Journal) : List Event :=
  j.filterMap fun
    | .event e => some e
    | .count _ => none

/-- How often a counter was stepped. -/
def total (j : Journal) (c : Counter) : Nat := j.count (.count c)

end Journal

/-- A value and what was noted while it was made. -/
structure Noted (α : Type) where
  value : α
  journal : Journal

namespace Noted

instance : Monad Noted where
  pure a := ⟨a, []⟩
  bind x f :=
    let y := f x.value
    ⟨y.value, x.journal ++ y.journal⟩

instance : LawfulMonad Noted :=
  LawfulMonad.mk' Noted (fun x => by simp [Functor.map]) (fun _ _ => rfl)
    (fun _ _ _ => by simp [bind])

def event (e : Event) : Noted Unit := ⟨(), [.event e]⟩

def count (c : Counter) : Noted Unit := ⟨(), [.count c]⟩

variable {α β : Type} (x : Noted α) (f : α → Noted β) (g : α → β) (a : α)

@[simp] theorem value_pure : (pure a : Noted α).value = a := rfl

@[simp] theorem journal_pure : (pure a : Noted α).journal = [] := rfl

@[simp] theorem value_bind : (x >>= f).value = (f x.value).value := rfl

@[simp] theorem journal_bind : (x >>= f).journal = x.journal ++ (f x.value).journal := rfl

@[simp] theorem value_map : (g <$> x).value = g x.value := rfl

@[simp] theorem journal_map : (g <$> x).journal = x.journal := List.append_nil _

end Noted
end FlagState
