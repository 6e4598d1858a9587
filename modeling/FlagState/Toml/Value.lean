import FlagState.Toml.Quoted

/-!
Values and the tables that hold them. Tables remember how they came to be, because only some may be
extended later: a table made on the way to a header may be opened by a header of its own, one made by a
dotted key only by further dotted keys, and one in braces not at all.
-/
namespace FlagState.Toml

/-- How a table came to be. -/
inductive Origin where
  /-- Opened by a header. -/
  | header
  /-- Made on the way to a table that a header opened. -/
  | implied
  /-- Made by a dotted key. -/
  | dotted
  /-- Written in braces. -/
  | inline
  deriving DecidableEq, Repr

/-- Values that are neither texts nor hold others. Settings need no more of them than their kind. -/
inductive Scalar where
  | integer (n : Int)
  | float
  | boolean (b : Bool)
  | moment
  deriving DecidableEq, Repr

inductive Value where
  | text (t : Text)
  | scalar (s : Scalar)
  | array (elements : List Value)
  | table (origin : Origin) (items : List (Text × Value))
  /-- The tables under one header in double brackets. -/
  | tables (elements : List (List (Text × Value)))

/-- The items of a table, each name once, in the order of the document. -/
abbrev Items := List (Text × Value)

namespace Items

/-- Gives a name a value, in its old place if it has one. -/
def set (name : Text) (v : Value) : Items → Items
  | [] => [(name, v)]
  | (n, w) :: items => if n = name then (n, v) :: items else (n, w) :: set name v items

/-- Changes the table at the end of a path; missing tables on the way are made. A dotted key does not
pass through tables that a header opened; of the tables under double brackets the last one counts. -/
def changeAt (byKey : Bool) (change : Origin → Items → Option Items) :
    List Text → Origin → Items → Option Items
  | [], origin, items => change origin items
  | name :: path, _, items =>
    match items.lookup name with
    | none => do
      let origin := if byKey then .dotted else .implied
      return items.set name (.table origin (← changeAt byKey change path origin []))
    | some (.table .inline _) => none
    | some (.table origin inner) => do
      if byKey && origin = .header then none
      else return items.set name (.table origin (← changeAt byKey change path origin inner))
    | some (.tables elements) => do
      let last ← changeAt byKey change path .header (← elements.getLast?)
      return items.set name (.tables (elements.dropLast ++ [last]))
    | some _ => none

/-- Adds an item under a key. Names are given once, and dotted keys add to no tables but their own. -/
def add (items : Items) (key : Key) (v : Value) : Option Items :=
  changeAt true put key.path .header items
where
  put (origin : Origin) (inner : Items) : Option Items :=
    if (!key.path.isEmpty && origin != .dotted) || (inner.lookup key.name).isSome then none
    else some (inner ++ [(key.name, v)])

def addAll (items : Items) (new : List (Key × Value)) : Option Items :=
  new.foldlM (fun items (key, v) => items.add key v) items

end Items
end FlagState.Toml
