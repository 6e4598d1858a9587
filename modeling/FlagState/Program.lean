import FlagState.Arguments
import FlagState.Destination
import FlagState.Environment
import FlagState.LogFilter
import FlagState.LogLine
import FlagState.Settings

/-!
The program as a function of its arguments, its variables and the files it finds. It tells how it ends, what
it writes and which files it leaves; only clock and terminal are outside.
-/
namespace FlagState

structure Invocation where
  arguments : List Text
  environment : Variables
  files : FileSystem

/-- Standard error shows logged events and plain text. -/
inductive Remark where
  | event (e : Event)
  | text (t : Text)
  deriving DecidableEq, Repr

/-- The daily log in a directory, with the events of this invocation. -/
structure LogFile where
  directory : Place
  events : List Event

structure Outcome where
  code : Nat
  output : List UInt8
  remarks : List Remark
  files : FileSystem
  log : Option LogFile

namespace Program

def name : Text := "mid-to-iso3166"

/-- The date is added to it. -/
def logFileName : Text := "mid-to-iso3166.log."

/-- Where the log of a day is. -/
def logPlace (log : LogFile) (date : Text) : Place := log.directory ++ [logFileName ++ date]

/-- What is added to a log. -/
def logText (log : LogFile) (time : Text) : Text := log.events.flatMap fun e => e.object time ++ ['\n']

def versionText : Text := name ++ " 0.1.0\n"

def helpText : Text :=
  "Generate MMSI MID to ISO 3166 alpha-2 match arms\n\n" ++
  "Usage: mid-to-iso3166 [OPTIONS]\n\n" ++
  "Options:\n" ++
  "  -o, --output <OUTPUT>  Write the generated code to this file instead of stdout\n" ++
  "      --format <FORMAT>  Output format (defaults to the config file value, then entries) " ++
  "[possible values: entries, function]\n" ++
  "      --config <CONFIG>  Config file (defaults to ./mid-to-iso3166.toml when present)\n" ++
  "  -h, --help             Print help\n" ++
  "  -V, --version          Print version\n"

def usageText (e : UsageError) : Text :=
  "error: " ++ e.message ++ "\n\nUsage: mid-to-iso3166 [OPTIONS]\n\n" ++
  "For more information, try '--help'.\n"

/-- The variable that selects what is logged. -/
def filterVariable : Text := "RUST_LOG"

/-- A readable filter in the environment comes before the one of the settings, whose wrong directives
are remarked on. -/
def filter (vars : Variables) (s : Settings) : LogFilter × List Remark :=
  match (vars.lookup filterVariable).bind LogFilter.ofText? with
  | some f => (f, [])
  | none =>
    let (f, wrong) := LogFilter.ofTextLeniently s.logging.level
    (f, wrong.map fun (t, mistake) => .text ("ignoring `" ++ t ++ "`: " ++ mistake.message ++ ['\n']))

/-- What a generation comes to: exit code, output, text for standard error, and files. -/
structure Generated where
  code : Nat
  output : List UInt8
  complaint : Text
  files : FileSystem

def generate (tables : Tables) (s : Settings) (o : Options) (fs : FileSystem) : Noted Generated := do
  let destination := Destination.ofPath? o.output
  match ← destination.prepare fs with
  | .error fault =>
    let complaint := "Failed to open output: " ++ (Failure.io fault).message ++ ": " ++
      fault.message ++ "\n"
    return ⟨1, [], complaint, fs⟩
  | .ok prepared =>
    let layout := o.layout.getD s.output.layout
    let listing := (Listing.into (Sink.ofCapacity none) layout).withFunctionName
      s.output.functionName
    let run ← Generation.run tables listing (Sink.ofCapacity none)
    let output := if prepared.place.isNone then run.listing.sink.contents else []
    let files := prepared.close run.listing
    let diagnostics := (Text.ofUtf8? run.diagnostics.contents).getD []
    match run.outcome with
    | .ok r =>
      Noted.event (.finished r.active r.suppressed r.misreadings.length)
      return ⟨0, output, diagnostics, files⟩
    | .error f => return ⟨1, output, diagnostics ++ f.message ++ ['\n'], files⟩

def remarksOf (t : Text) : List Remark := if t.isEmpty then [] else [.text t]

/-- Generates with the log set up as the settings say. A log directory that cannot be had ends the program
before it generates anything. So would a log file of the day that cannot be opened, as where a directory has
its name, but no day is known here: such a file is taken to open. -/
def generateLogged (tables : Tables) (vars : Variables) (s : Settings) (o : Options) (fs : FileSystem) :
    Outcome :=
  let (f, remarks) := filter vars s
  match s.logging.directory.map fs.makeDirectories with
  | some (fs, none) => ⟨101, [], remarks ++ [.text "the log directory cannot be used\n"], fs, none⟩
  | some (fs, some directory) =>
    let noted := generate tables s o fs
    let events := noted.journal.events.filter f.admits
    outcome noted.value (remarks ++ events.map .event) (some ⟨directory, events⟩)
  | none =>
    let noted := generate tables s o fs
    outcome noted.value (remarks ++ (noted.journal.events.filter f.admits).map .event) none
where
  outcome (g : Generated) (remarks : List Remark) (log : Option LogFile) : Outcome :=
    ⟨g.code, g.output, remarks ++ remarksOf g.complaint, g.files, log⟩

/-- The program with tables of its own. -/
def runOn (tables : Tables) (i : Invocation) : Outcome :=
  let vars := Environment.load i.files i.environment
  match Arguments.read i.arguments with
  | .error e => ⟨2, [], [.text (usageText e)], i.files, none⟩
  | .ok .help => ⟨0, helpText.utf8, [], i.files, none⟩
  | .ok .version => ⟨0, versionText.utf8, [], i.files, none⟩
  | .ok (.generate o) =>
    match Settings.load i.files o.settings with
    | .error f => ⟨1, [], [.text (f.message ++ ['\n'])], i.files, none⟩
    | .ok s => generateLogged tables vars s o i.files

def run (i : Invocation) : Outcome := runOn Tables.published i

end Program
end FlagState
