import TopicReplay.Checkpoint.Selection
import TopicReplay.Session.Crew

/-!
# Sessions

A session is one run over a set of topics. It asks its broker for the partitions,
sends out a consumer for each one that is selected, and supervises them until all
have ended. It can be started once, and its lifecycle never goes back.
-/

namespace TopicReplay

/-- How a session runs. -/
structure Settings where
  /-- Where offsets are stored and looked up. -/
  environment : String := "default"
  /-- How many events the channel holds. -/
  capacity : Nat := 1024
  /-- After how many milliseconds without activity the session ends, if it does. -/
  idleTimeout : Option Nat := none
  /-- How many milliseconds consumers have to stop. -/
  drainTimeout : Nat := 5000
  /-- What a missing topic is created like, if it is. -/
  autoCreate : Option Broker.TopicSpec := none
  deriving DecidableEq, Repr

/-- The stages of a session. -/
inductive Lifecycle where
  | idle
  | fetchingMetadata
  | running
  | draining
  | closed
  deriving DecidableEq, Repr

/-- The text of a stage. -/
def Lifecycle.text : Lifecycle → String
  | .idle => "idle"
  | .fetchingMetadata => "fetching metadata"
  | .running => "running"
  | .draining => "draining"
  | .closed => "closed"

/-- Why a session ended. -/
inductive Reason where
  /-- All consumers ended by themselves. -/
  | completed
  | cancelled
  | idleTimeout
  deriving DecidableEq, Repr

/-- The text of a reason. -/
def Reason.text : Reason → String
  | .completed => "completed"
  | .cancelled => "cancelled"
  | .idleTimeout => "idle timeout"

/-- How reading a partition ended. -/
inductive PartitionOutcome where
  | finished (t : Termination)
  | failed (text : String)
  /-- Its consumer was given up, or was taken down. -/
  | aborted
  deriving DecidableEq, Repr

/-- The end of one partition. -/
structure PartitionSummary where
  outcome : PartitionOutcome
  counters : Counters
  deriving DecidableEq, Repr

/-- The result of a session. -/
structure Summary where
  reason : Reason
  partitions : OrderedMap TopicPartition PartitionSummary := .empty
  deriving DecidableEq, Repr

/-- How many events were delivered in all. -/
def Summary.total (summary : Summary) : Nat :=
  summary.partitions.values.foldr (fun partition n => partition.counters.consumed + n) 0

/-- How many partitions failed. -/
def Summary.failures (summary : Summary) : Nat :=
  (summary.partitions.values.filter fun partition =>
    match partition.outcome with
    | .failed _ => true
    | _ => false).length

/-- What the supervisor of a session is doing. -/
inductive Supervisor where
  /-- Nothing was started. -/
  | absent
  | watching
  /-- Waiting for consumers that were told to stop, until a deadline. -/
  | draining (reason : Reason) (deadline : Nat)
  | done (summary : Summary)
  deriving DecidableEq

/-- One run over a set of topics. -/
structure Session (σ : Type) where
  settings : Settings
  lifecycle : Lifecycle := .idle
  started : Bool := false
  /-- Whether the caller has asked the session to stop. -/
  cancelled : Bool := false
  /-- The next offset to read of every partition that was committed. -/
  progress : OrderedMap TopicPartition Int := .empty
  crew : Crew σ
  /-- How the consumers ended that were taken note of. -/
  outcomes : OrderedMap TopicPartition PartitionOutcome := .empty
  supervisor : Supervisor := .absent

namespace Session

variable {σ : Type}

/-- A session that was not started. -/
def new (settings : Settings) (now : Nat) : Session σ where
  settings := settings
  crew := {
    consumers := []
    channel := { capacity := settings.capacity }
    stats := .start now }

/-- The result of a session that has ended. -/
def summary? (session : Session σ) : Option Summary :=
  match session.supervisor with
  | .done summary => some summary
  | _ => none

/-- Asks a session to stop. -/
def cancel (session : Session σ) : Session σ := { session with cancelled := true }

/-- Takes the receiver of the events away. -/
def hangUp (session : Session σ) : Session σ :=
  { session with crew := { session.crew with channel := session.crew.channel.hangUp } }

end Session

end TopicReplay
