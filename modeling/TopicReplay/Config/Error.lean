/-!
# Configuration errors

A configuration may fail to load, and a loaded one may hold settings that no run
can use.
-/

namespace TopicReplay.Config

/-- What can be wrong with a configuration. -/
inductive Error where
  /-- The file or a variable cannot be read. -/
  | unreadable (text : String)
  /-- A setting cannot be used. -/
  | invalid (text : String)
  deriving DecidableEq, Repr

/-- The text of an error. -/
def Error.message : Error → String
  | .unreadable text => "Failed to load configuration: " ++ text
  | .invalid text => "Invalid configuration: " ++ text

end TopicReplay.Config
