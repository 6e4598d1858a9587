import FlagState.FileSystem
import FlagState.Listing
import FlagState.Toml.Document

/-!
Settings with a default for each. A document gives any of them; unknown names in it are passed over, and a
value of the wrong kind spoils the whole document.
-/
namespace FlagState

structure Settings.Logging where
  /-- What is logged if the environment does not say. -/
  level : Text
  /-- Where daily log files are kept; none are without it. -/
  directory : Option Text
  deriving DecidableEq, Repr

structure Settings.Output where
  layout : Layout
  functionName : Text
  deriving DecidableEq, Repr

structure Settings where
  logging : Settings.Logging
  output : Settings.Output
  deriving DecidableEq, Repr

namespace Settings

open Toml (Items Value)

def Logging.default : Logging := ⟨"warn", none⟩

def Output.default : Output := ⟨Layout.default, Listing.defaultFunctionName⟩

def default : Settings := ⟨Logging.default, Output.default⟩

/-- The settings file that is read if no other is asked for. -/
def defaultFile : Text := "mid-to-iso3166.toml"

/-- The items of a section. An array gives them in their declared order, and a moment counts as a table
without any. -/
def section? (declared : List Text) : Value → Option Items
  | .table _ items => some items
  | .array elements => some (declared.zip elements)
  | .tables elements => some (declared.zip (elements.map (Value.table .header)))
  | .scalar .moment => some []
  | .scalar _ | .text _ => none

def text? : Value → Option Text
  | .text t => some t
  | _ => none

def holdsNothing : Value → Bool
  | .array elements => elements.isEmpty
  | .tables elements => elements.isEmpty
  | .table _ items => items.isEmpty
  | .scalar _ | .text _ => false

/-- A layout is its name, or a table with this one name and nothing under it. -/
def layout? : Value → Option Layout
  | .text t => Layout.ofName? t
  | .table _ [(name, v)] => if holdsNothing v then Layout.ofName? name else none
  | _ => none

/-- A missing item has its default; one that is there has to be of the right kind. -/
def itemOr {α : Type} (items : Items) (name : Text) (default : α) (read? : Value → Option α) :
    Option α :=
  match items.lookup name with
  | none => some default
  | some v => read? v

def logging? (v : Value) : Option Logging := do
  let items ← section? ["level", "directory"] v
  let level ← itemOr items "level" Logging.default.level text?
  let directory ← itemOr items "directory" Logging.default.directory fun v => some <$> text? v
  return ⟨level, directory⟩

def output? (v : Value) : Option Output := do
  let items ← section? ["format", "function_name"] v
  let layout ← itemOr items "format" Output.default.layout layout?
  let functionName ← itemOr items "function_name" Output.default.functionName text?
  return ⟨layout, functionName⟩

def ofItems? (items : Items) : Option Settings := do
  let logging ← itemOr items "logging" Logging.default logging?
  let output ← itemOr items "output" Output.default output?
  return ⟨logging, output⟩

def ofText? (t : Text) : Option Settings := do ofItems? (← Toml.Document.ofText? t)

def ofFile (fs : FileSystem) (path : Text) : Except Failure Settings :=
  match fs.readText path with
  | .error fault => .error (.unreadableSettings path fault)
  | .ok t =>
    match ofText? t with
    | some s => .ok s
    | none => .error .unusableSettings

/-- The file that is asked for has to be there; the default file is read if it is one. -/
def load (fs : FileSystem) : Option Text → Except Failure Settings
  | some path => ofFile fs path
  | none => if fs.isFile defaultFile then ofFile fs defaultFile else .ok default

end Settings
end FlagState
