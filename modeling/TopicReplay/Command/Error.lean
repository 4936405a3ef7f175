import TopicReplay.Config.Error
import TopicReplay.Error

/-!
# Command errors

What can make a command fail. An error that wraps another one either speaks with
the other's text or names what it was about and then the cause.
-/

namespace TopicReplay.Command

/-- What can make a command fail. -/
inductive Error where
  | config (e : Config.Error)
  | checkpoint (e : Checkpoint.Error)
  | broker (e : Broker.Error)
  | store (e : Store.Error)
  | run (e : RunError)
  | io (text : String)
  /-- A text is no JSON. -/
  | json (text : String)
  | notFound (what : String)
  | failed (text : String)
  deriving DecidableEq

namespace Error

/-- The text of the cause of an error, where it is told apart from the error. -/
def cause? : Error → Option String
  | .config e => some e.message
  | .io text | .json text => some text
  | _ => none

/-- The text of an error. -/
def message : Error → String
  | .config e => "configuration error: " ++ e.message
  | .checkpoint e => e.message
  | .broker e => e.message
  | .store e => e.message
  | .run e => e.message
  | .io text => "I/O error: " ++ text
  | .json text => "serialization error: " ++ text
  | .notFound what => "not found: " ++ what
  | .failed text => text

/-- The text of an error followed by that of its cause. -/
def chain (e : Error) : String := ": ".intercalate (e.message :: e.cause?.toList)

end Error

end TopicReplay.Command
