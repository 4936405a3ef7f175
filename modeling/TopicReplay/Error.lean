import TopicReplay.Broker.Error
import TopicReplay.Checkpoint.Error
import TopicReplay.Store.Error

/-!
# Run errors

What can end a run, or the reading of one partition, and the text that tells it.
An error of a checkpoint, a broker or the offset store speaks for itself.
-/

namespace TopicReplay

/-- What can end a run or one of its partitions. -/
inductive RunError where
  | checkpoint (e : Checkpoint.Error)
  | broker (e : Broker.Error)
  | store (e : Store.Error)
  | noTopics
  | alreadyStarted
  | supervisor (text : String)
  deriving DecidableEq

/-- The text of an error. -/
def RunError.message : RunError → String
  | .checkpoint e => e.message
  | .broker e => e.message
  | .store e => e.message
  | .noTopics => "no topics requested"
  | .alreadyStarted => "orchestrator has already been started"
  | .supervisor text => text

/-- An error with the partition it happened at. -/
structure PartitionError where
  place : TopicPartition
  error : RunError
  deriving DecidableEq

/-- The text of an error with its place. -/
def PartitionError.message (e : PartitionError) : String :=
  e.place.display ++ ": " ++ e.error.message

end TopicReplay
