import FlagState.Listing

/-!
The command line: three options with values, each given at most once, and two requests for information.
Words are taken from the left, and the first request or mistake decides.
-/
namespace FlagState

structure Options where
  output : Option Text
  layout : Option Layout
  settings : Option Text
  deriving DecidableEq, Repr

/-- What a command line asks for. -/
inductive Command where
  | generate (o : Options)
  | help
  | version
  deriving DecidableEq, Repr

inductive UsageError where
  | unexpected (word : Text)
  | missingValue (option : Text)
  | badValue (option value : Text)
  | repeated (option : Text)
  deriving DecidableEq, Repr

def UsageError.message : UsageError → Text
  | unexpected word => "unexpected argument '" ++ word ++ "' found"
  | missingValue option => "a value is required for '" ++ option ++ "'"
  | badValue option value => "invalid value '" ++ value ++ "' for '" ++ option ++ "'"
  | repeated option => "the argument '" ++ option ++ "' cannot be used multiple times"

namespace Arguments

inductive ValueOption where
  | output | layout | settings
  deriving DecidableEq, Repr

def ValueOption.name : ValueOption → Text
  | output => "--output"
  | layout => "--format"
  | settings => "--config"

/-- What a word that begins with a hyphen is; a value may be attached to it. -/
inductive Word where
  | option (o : ValueOption) (attached : Option Text)
  | help
  | version
  | unknown

def longWord (name : Text) (attached : Option Text) : Word :=
  if name = "output" then .option .output attached
  else if name = "format" then .option .layout attached
  else if name = "config" then .option .settings attached
  else if attached.isSome then .unknown
  else if name = "help" then .help
  else if name = "version" then .version
  else .unknown

/-- Letters can be run together; a request among them is met before what follows it. -/
def shortWord (letter : Char) (rest : Text) : Word :=
  if letter = 'h' then .help
  else if letter = 'V' then .version
  else if letter = 'o' then
    .option .output (match rest with
      | [] => none
      | '=' :: value => some value
      | value => some value)
  else .unknown

/-- A single hyphen is no option. -/
def word : Text → Word
  | '-' :: '-' :: long =>
    let name := long.takeWhile (· != '=')
    longWord name (if '=' ∈ long then some (long.drop (name.length + 1)) else none)
  | '-' :: letter :: rest => shortWord letter rest
  | _ => .unknown

/-- Words with a hyphen and more are taken for options even where a value is due. -/
def isValue (t : Text) : Bool := !(['-'].isPrefixOf t && t.length > 1)

def setOutput (o : Options) (path : Text) : Except UsageError Options :=
  if o.output.isSome then .error (.repeated ValueOption.output.name)
  else .ok { o with output := some path }

def setSettings (o : Options) (path : Text) : Except UsageError Options :=
  if o.settings.isSome then .error (.repeated ValueOption.settings.name)
  else .ok { o with settings := some path }

def setLayout (o : Options) (value : Text) : Except UsageError Options :=
  match Layout.ofName? value with
  | none => .error (.badValue ValueOption.layout.name value)
  | some l =>
    if o.layout.isSome then .error (.repeated ValueOption.layout.name)
    else .ok { o with layout := some l }

/-- No value is empty. -/
def set (o : Options) (option : ValueOption) (value : Text) : Except UsageError Options :=
  if value.isEmpty then .error (.badValue option.name value)
  else
    match option with
    | .output => setOutput o value
    | .layout => setLayout o value
    | .settings => setSettings o value

def readAfter (o : Options) : List Text → Except UsageError Command
  | [] => .ok (.generate o)
  | t :: rest =>
    if t = "--" then
      match rest with
      | [] => .ok (.generate o)
      | t :: _ => .error (.unexpected t)
    else
      match word t with
      | .help => .ok .help
      | .version => .ok .version
      | .unknown => .error (.unexpected t)
      | .option option (some value) =>
        match set o option value with
        | .ok o => readAfter o rest
        | .error e => .error e
      | .option option none =>
        match rest with
        | [] => .error (.missingValue option.name)
        | value :: rest =>
          if !isValue value then .error (.missingValue option.name)
          else
            match set o option value with
            | .ok o => readAfter o rest
            | .error e => .error e

def read (words : List Text) : Except UsageError Command := readAfter ⟨none, none, none⟩ words

end Arguments
end FlagState
