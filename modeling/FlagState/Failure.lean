import FlagState.Allocation

/-!
Why work ends early, and the words in which this is told.
-/
namespace FlagState

/-- What can go wrong when files and sinks are read and written. -/
inductive IoFault where
  | missing
  | isDirectory
  | notDirectory
  | notText
  | full
  deriving DecidableEq, Repr

def IoFault.message : IoFault → Text
  | missing => "No such file or directory (os error 2)"
  | isDirectory => "Is a directory (os error 21)"
  | notDirectory => "Not a directory (os error 20)"
  | notText => "stream did not contain valid UTF-8"
  | full => "failed to write whole buffer"

inductive Failure where
  /-- The country of an allocation has no row in the country table. -/
  | unmatched (a : Allocation)
  | io (fault : IoFault)
  | unreadableSettings (path : Text) (fault : IoFault)
  /-- The text of the settings is no document, or a value of it is of the wrong kind. -/
  | unusableSettings
  deriving DecidableEq, Repr

def Failure.message : Failure → Text
  | unmatched a => "Unmatching country: " ++ a.country
  | io fault => "I/O error: " ++ fault.message
  | unreadableSettings path fault =>
    "Configuration error: Failed to read config file '" ++ path ++ "': " ++ fault.message
  | unusableSettings => "TOML deserialization failed: "

end FlagState
