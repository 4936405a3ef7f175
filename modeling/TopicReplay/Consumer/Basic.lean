import TopicReplay.Broker.Basic
import TopicReplay.Checkpoint.Span
import TopicReplay.Error

/-!
# Partition consumers

A consumer reads one partition. It resolves its span to a start offset and a stop
bound, opens a stream, and delivers every message from the start on until one
reaches the bound, the stream ends, or it is told to stop.
-/

namespace TopicReplay

/-- Why a consumer stopped without an error. -/
inductive Termination where
  /-- The stop bound was reached, or lies before the start. -/
  | stopped
  /-- The consumer was told to stop, or nobody receives its events. -/
  | cancelled
  /-- The stream ended. -/
  | streamEnded
  deriving DecidableEq, Repr

/-- The text of a termination. -/
def Termination.text : Termination → String
  | .stopped => "stopped at checkpoint"
  | .cancelled => "cancelled"
  | .streamEnded => "upstream closed"

/-- How a consumer ended. -/
inductive Ending where
  | finished (t : Termination)
  | failed (e : RunError)
  /-- It was taken down by its client. -/
  | crashed
  /-- It was not waited for any longer. -/
  | aborted
  deriving DecidableEq

/-- Where a consumer stops. The message that reaches the bound is still delivered. -/
inductive StopBound where
  | offset (n : Int)
  | time (t : Instant)
  deriving DecidableEq, Repr

/-- Whether a message reaches or passes a bound. -/
def StopBound.reachedBy (bound : StopBound) (m : Message) : Bool :=
  match bound with
  | .offset n => n ≤ m.offset
  | .time t => m.timestamp.any fun stamp => stamp.atOrAfter t

/-- The start offset and the stop bound of a consumer. -/
structure Bounds where
  start : Int
  stop : Option StopBound
  deriving DecidableEq, Repr

namespace Bounds

/-- Whether the stop bound lies before the start, so that nothing is read. -/
def areCrossed (bounds : Bounds) : Bool :=
  match bounds.stop with
  | some (.offset stop) => stop < bounds.start
  | _ => false

/-- Whether a message is the last one to deliver. -/
def endAt (bounds : Bounds) (m : Message) : Bool := bounds.stop.any fun bound => bound.reachedBy m

end Bounds

/-- What a consumer is about to do. -/
inductive Phase (σ : Type) where
  /-- To resolve its bounds. -/
  | resolving
  /-- To open a stream. -/
  | attaching (bounds : Bounds)
  /-- To read the stream. -/
  | reading (bounds : Bounds) (stream : σ)
  /-- To read the stream again when the clock says `wake`, after an error. -/
  | resting (bounds : Bounds) (stream : σ) (wake : Nat)
  /-- To deliver an event, which may be the last one. -/
  | sending (bounds : Bounds) (stream : σ) (event : Event) (isLast : Bool)
  | ended (ending : Ending)

/-- The stream that a consumer holds. -/
def Phase.stream? {σ : Type} : Phase σ → Option σ
  | .reading _ stream | .resting _ stream _ | .sending _ stream _ _ => some stream
  | .resolving | .attaching _ | .ended _ => none

/-- A consumer of one partition. -/
structure Consumer (σ : Type) where
  environment : String
  place : TopicPartition
  span : Span
  phase : Phase σ := .resolving

/-- How a consumer ended, if it did. -/
def Consumer.ending? {σ : Type} (consumer : Consumer σ) : Option Ending :=
  match consumer.phase with
  | .ended ending => some ending
  | _ => none

end TopicReplay
