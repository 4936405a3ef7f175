import TopicReplay.Partition
import TopicReplay.Time.Rfc3339

/-!
# Checkpoint errors

Every way in which a checkpoint expression, or a span between two checkpoints,
can be wrong, and the text that tells it.
-/

namespace TopicReplay.Checkpoint

/-- Why an expression is no checkpoint. -/
inductive Fault where
  | empty
  | belowOldest
  | unrecognised
  /-- A fault that another program part found and described. -/
  | described (text : String)
  deriving DecidableEq, Repr

/-- The text of a fault. -/
def Fault.text : Fault → String
  | .empty => "empty expression"
  | .belowOldest => "offset must be greater than or equal to -2"
  | .unrecognised => "expected a keyword, an offset or a timestamp"
  | .described text => text

/-- Why two checkpoints form no span. -/
inductive SpanFault where
  /-- The second checkpoint cannot end a span; `stop` is its text. -/
  | noStop (stop : String)
  | offsetsReversed (start stop : Int)
  | timesReversed (start stop : Instant)
  /-- A fault that another program part found and described. -/
  | described (text : String)
  deriving DecidableEq

/-- The text of a fault. -/
def SpanFault.text : SpanFault → String
  | .noStop stop => "'" ++ stop ++ "' is not an acceptable stop condition"
  | .offsetsReversed start stop =>
      "start offset " ++ Text.integerString start ++ " is after stop offset " ++
        Text.integerString stop
  | .timesReversed start stop =>
      "start time " ++ start.display ++ " is after stop time " ++ stop.display
  | .described text => text

/-- What can be wrong with checkpoints. -/
inductive Error where
  | unreadable (input : String) (fault : Fault)
  | notAStop (input : String)
  | badPartition (input : String)
  | badSpan (scope : String) (fault : SpanFault)
  deriving DecidableEq

/-- The text of an error. -/
def Error.message : Error → String
  | .unreadable input fault => "invalid checkpoint '" ++ input ++ "': " ++ fault.text
  | .notAStop input => "'" ++ input ++ "' is not an acceptable stop condition"
  | .badPartition input => "invalid partition '" ++ input ++ "' in checkpoint expression"
  | .badSpan scope fault => "invalid checkpoint range for " ++ scope ++ ": " ++ fault.text

end TopicReplay.Checkpoint
