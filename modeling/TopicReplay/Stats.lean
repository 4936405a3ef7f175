import TopicReplay.Decimal.Shortest
import TopicReplay.OrderedMap
import TopicReplay.Partition

/-!
# Statistics of a run

A run counts the events of every partition and of all together, and remembers
when it last saw activity. Its clock counts milliseconds.
-/

namespace TopicReplay

/-- What was counted of one partition. -/
structure Counters where
  consumed : Nat := 0
  lastOffset : Option Int := none
  deriving DecidableEq, Repr, Inhabited

/-- Counts one more event. -/
def Counters.count (counters : Counters) (offset : Int) : Counters where
  consumed := counters.consumed + 1
  lastOffset := some offset

/-- What was counted of a run. -/
structure Stats where
  partitions : OrderedMap TopicPartition Counters := .empty
  total : Nat := 0
  /-- When the run began. -/
  started : Nat := 0
  /-- When the run last saw activity. -/
  lastActivity : Nat := 0
  deriving DecidableEq, Repr

namespace Stats

/-- The statistics of a run that begins at `now`. -/
def start (now : Nat) : Stats := { started := now, lastActivity := now }

/-- Notes activity. -/
def touch (stats : Stats) (now : Nat) : Stats := { stats with lastActivity := now }

/-- Counts an event, which is an activity. -/
def record (stats : Stats) (now : Nat) (place : TopicPartition) (offset : Int) : Stats where
  partitions := stats.partitions.update place fun counters =>
    (counters.getD {}).count offset
  total := stats.total + 1
  started := stats.started
  lastActivity := now

/-- What was counted of a partition, if it had an event. -/
def counters? (stats : Stats) (place : TopicPartition) : Option Counters :=
  stats.partitions.get? place

/-- What was counted of a partition. -/
def counters (stats : Stats) (place : TopicPartition) : Counters :=
  (stats.counters? place).getD {}

/-- How long the run has seen no activity, in milliseconds. -/
def idle (stats : Stats) (now : Nat) : Nat := now - stats.lastActivity

/-- Milliseconds as seconds. -/
def secondsOf (millis : Nat) : Float :=
  Float.ofNat (millis / 1000) + Float.ofNat (millis % 1000 * 1000000) / 1000000000.0

/-- Events per second since the run began. -/
def throughput (stats : Stats) (now : Nat) : Float :=
  let elapsed := now - stats.started
  if elapsed = 0 then 0.0 else Float.ofNat stats.total / secondsOf elapsed

end Stats

end TopicReplay
