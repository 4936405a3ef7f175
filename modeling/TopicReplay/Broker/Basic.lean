import TopicReplay.Broker.Error
import TopicReplay.Event

/-!
# Brokers

A broker holds topics. What a run needs of one is small: the partitions of a
topic, the offset that a partition has at one of its ends or from an instant on, a
stream over the messages of a partition, and new topics. Every broker that offers
this is a `Client`.
-/

namespace TopicReplay.Broker

/-- Which offset of a partition is asked for. -/
inductive OffsetQuery where
  /-- The first offset that is still there. -/
  | oldest
  /-- The offset that the next message will have. -/
  | newest
  /-- The offset of the first message from this instant on, or else the newest. -/
  | time (t : Instant)
  deriving DecidableEq, Repr

/-- What a new topic is like. -/
structure TopicSpec where
  partitions : Int := 1
  replication : Int := 1
  deriving DecidableEq, Repr

/-- What comes of a question to a broker. -/
inductive Reply (α : Type) where
  | answer (a : α)
  | refusal (e : Error)
  /-- The client breaks down and takes its caller with it. -/
  | breakdown
  deriving DecidableEq, Repr

/-- What comes of reading a stream. -/
inductive Reading where
  | message (m : Message)
  | fault (e : Error)
  /-- There is nothing to read yet. -/
  | waiting
  /-- There will be nothing more to read. -/
  | ended
  deriving DecidableEq, Repr

/-- Access to a broker of type `β` whose streams are of type `σ`. -/
class Client (β : Type) (σ : outParam Type) where
  /-- The partitions of a topic. -/
  partitions : β → String → Except Error (List Int)
  /-- The offset of a partition that a query asks for. -/
  lookup : β → TopicPartition → OffsetQuery → Reply Int
  /-- Opens a stream over a partition from an offset on. -/
  attach : β → TopicPartition → Int → Except Error (σ × β)
  /-- Reads a stream. -/
  poll : β → σ → Reading × σ × β
  /-- Gives a stream up. -/
  release : β → σ → β
  /-- Creates a topic, unless it is there. -/
  create : β → String → TopicSpec → Except Error β

end TopicReplay.Broker
