import FlagState.Country
import FlagState.Journal

/-!
Countries by name. The country entered last under a name is the one that is found, whatever was entered
before (`find?_insert`), and every country stands under its own name.
-/
namespace FlagState.Country

/-- No two countries of an index have one name. -/
structure Index where
  countries : List Country
  distinct : (countries.map Country.name).Nodup

namespace Index

def empty : Index := ⟨[], by simp⟩

def size (x : Index) : Nat := x.countries.length

def isEmpty (x : Index) : Bool := x.countries.isEmpty

def find? (x : Index) (name : Text) : Option Country := x.countries.find? (·.name = name)

def alpha2? (x : Index) (name : Text) : Option Text := (x.find? name).map Country.alpha2

private theorem nodup_replace (c : Country) {cs : List Country}
    (h : (cs.map Country.name).Nodup) :
    ((c :: cs.filter (·.name ≠ c.name)).map Country.name).Nodup := by
  rw [List.map_cons, List.nodup_cons]
  refine ⟨?_, h.sublist (List.filter_sublist.map _)⟩
  simp

/-- A country takes the place of another one of its name. -/
def insert (x : Index) (c : Country) : Index :=
  ⟨c :: x.countries.filter (·.name ≠ c.name), nodup_replace c x.distinct⟩

theorem find?_empty (name : Text) : empty.find? name = none := rfl

theorem find?_insert (x : Index) (c : Country) (name : Text) :
    (x.insert c).find? name = if c.name = name then some c else x.find? name := by
  by_cases h : c.name = name
  · simp [find?, insert, h]
  · rw [if_neg h, find?, insert, List.find?_cons_of_neg (by simpa using h), find?,
      List.find?_filter]
    congr 1
    funext d
    by_cases hd : d.name = name
    · simp [hd, Ne.symm h]
    · simp [hd]

theorem name_of_find? {x : Index} {name : Text} {c : Country} (h : x.find? name = some c) :
    c.name = name := by
  simpa using List.find?_some h

/-- Enters a country and notes which one it replaces. -/
def enter (x : Index) (c : Country) : Noted Index := do
  if let some earlier := x.find? c.name then
    Noted.event (.replaced c.name earlier.alpha2 c.alpha2)
  return x.insert c

end Index

/-- A line that is neither empty nor a country row, with its number, counted from one. -/
structure Misreading where
  lineNumber : Nat
  line : Text
  deriving DecidableEq, Repr

def Misreading.message (m : Misreading) : Text := "Failed to parse: " ++ m.line

namespace Index

/-- Enters the countries of the lines from line `n` on; malformed lines are reported and skipped. -/
def readLines (n : Nat) (x : Index) : List Text → Noted (Index × List Misreading)
  | [] => return (x, [])
  | line :: lines =>
    match Row.ofLine line with
    | .blank => readLines (n + 1) x lines
    | .country c => do readLines (n + 1) (← x.enter c) lines
    | .malformed => do
      Noted.event (.misread n line)
      Noted.count .misreadings
      let (y, misreadings) ← readLines (n + 1) x lines
      return (y, ⟨n, line⟩ :: misreadings)

/-- The index of a table and the lines that could not be read. -/
def ofTable (table : Text) : Noted (Index × List Misreading) := do
  let (x, misreadings) ← readLines 1 empty (Text.lines table)
  Noted.event (.indexed x.size misreadings.length)
  return (x, misreadings)

end Index
end FlagState.Country
