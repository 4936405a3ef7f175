import TopicReplay.Broker.Basic
import TopicReplay.OrderedMap

/-!
# Partition logs

A partition log is a run of messages with consecutive offsets. Messages are
appended at its end and dropped at its front, and offsets are never used again. A
stream over a log is a cursor: it knows the offset to read next and passes over
what was dropped. A reader can be made to meet errors, each of them once.

`LogBroker` holds the logs of many topics. A topic that is added again gets new
logs, while streams over the old ones go on reading those.
-/

namespace TopicReplay.Broker

/-- The messages of one partition. -/
structure PartitionLog where
  /-- The offset of the first message that is still there. -/
  low : Int := 0
  messages : List Message := []
  /-- Whether streams end at the end of the log. -/
  closed : Bool := false
  /-- The errors that the next readers meet, each once. -/
  faults : List Error := []
  deriving DecidableEq, Repr, Inhabited

namespace PartitionLog

/-- The offset that the next message will have. -/
def high (log : PartitionLog) : Int := log.low + log.messages.length

/-- Appends a message. -/
def append (log : PartitionLog) (key value : Option Text.Bytes) (timestamp : Option Instant) :
    PartitionLog :=
  { log with messages := log.messages ++ [⟨log.high, key, value, timestamp⟩] }

/-- Drops the messages below an offset, which becomes the lowest one. -/
def truncate (log : PartitionLog) (offset : Int) : PartitionLog :=
  if offset ≤ log.low then log
  else { log with low := offset, messages := log.messages.drop (offset - log.low).toNat }

/-- Makes streams end at the end of the log. -/
def close (log : PartitionLog) : PartitionLog := { log with closed := true }

/-- Makes the next read meet an error. -/
def inject (log : PartitionLog) (e : Error) : PartitionLog :=
  { log with faults := log.faults ++ [e] }

/-- The message at an offset, or the first one when the offset was dropped. -/
def messageAt? (log : PartitionLog) (offset : Int) : Option Message :=
  log.messages[(max offset log.low - log.low).toNat]?

/-- Reads at an offset. An error that was injected comes first and is used up. -/
def read (log : PartitionLog) (offset : Int) : Reading × PartitionLog :=
  match log.faults with
  | e :: rest => (.fault e, { log with faults := rest })
  | [] =>
      match log.messageAt? offset with
      | some m => (.message m, log)
      | none => (if log.closed then .ended else .waiting, log)

/-- Whether a message is from an instant or later. -/
def isFrom (t : Instant) (m : Message) : Bool := m.timestamp.any fun stamp => stamp.atOrAfter t

/-- The offset that a query asks for. -/
def lookup (log : PartitionLog) : OffsetQuery → Int
  | .oldest => log.low
  | .newest => log.high
  | .time t => ((log.messages.find? (isFrom t)).map (·.offset)).getD log.high

end PartitionLog

/-- A stream over a log: the place of the log among all logs, and the offset to
read next. -/
structure Cursor where
  log : Nat
  next : Int
  deriving DecidableEq, Repr

/-- The cursor behind what was read. It stands at a number of 64 bits behind every message but one
at the last of them; `Overflow` is what a program makes of that one. -/
def Cursor.advance (cursor : Cursor) : Reading → Cursor
  | .message m => { cursor with next := m.offset + 1 }
  | _ => cursor

/-- A broker that keeps everything in memory. -/
structure LogBroker where
  /-- All logs that ever were. -/
  logs : List PartitionLog := []
  /-- The places of a topic's logs, by partition. -/
  topics : OrderedMap String (List Nat) := .empty
  /-- The topics that clients created, in order. -/
  created : List String := []
  /-- The errors that lookups of an offset meet. -/
  lookupFaults : OrderedMap TopicPartition Error := .empty
  openStreams : Nat := 0

namespace LogBroker

/-- Adds a topic with empty logs, in place of one of the same name. -/
def addTopic (broker : LogBroker) (topic : String) (partitions : Int) : LogBroker :=
  let count := partitions.toNat
  { broker with
    logs := broker.logs ++ List.replicate count {}
    topics := broker.topics.insert topic ((List.range count).map (broker.logs.length + ·)) }

/-- The place of a partition's log. -/
def locate (broker : LogBroker) (place : TopicPartition) : Except Error Nat :=
  match broker.topics.get? place.topic with
  | none => .error (.topicNotFound place.topic)
  | some logs =>
      match if 0 ≤ place.partition then logs[place.partition.toNat]? else none with
      | some log => .ok log
      | none => .error (.partitionNotFound place.topic place.partition)

/-- The log at a place. -/
def log (broker : LogBroker) (n : Nat) : PartitionLog := broker.logs.getD n {}

/-- Changes the log of a partition. -/
def change (broker : LogBroker) (place : TopicPartition) (f : PartitionLog → PartitionLog) :
    Except Error LogBroker :=
  (broker.locate place).map fun n => { broker with logs := broker.logs.modify n f }

/-- Appends a message to a partition and gives its offset. -/
def produce (broker : LogBroker) (place : TopicPartition) (key value : Option Text.Bytes)
    (timestamp : Option Instant) : Except Error (Int × LogBroker) := do
  let n ← broker.locate place
  return ((broker.log n).high, ← broker.change place fun log => log.append key value timestamp)

/-- Makes lookups of a partition's offsets fail. -/
def failLookups (broker : LogBroker) (place : TopicPartition) (e : Error) : LogBroker :=
  { broker with lookupFaults := broker.lookupFaults.insert place e }

/-- The partitions of a topic. -/
def partitions (broker : LogBroker) (topic : String) : Except Error (List Int) :=
  match broker.topics.get? topic with
  | none => .error (.topicNotFound topic)
  | some logs => .ok ((List.range logs.length).map Int.ofNat)

/-- The offset of a partition that a query asks for. -/
def lookup (broker : LogBroker) (place : TopicPartition) (query : OffsetQuery) :
    Except Error Int := do
  let n ← broker.locate place
  match broker.lookupFaults.get? place with
  | some e => throw e
  | none => return (broker.log n).lookup query

/-- Opens a stream. -/
def attach (broker : LogBroker) (place : TopicPartition) (start : Int) :
    Except Error (Cursor × LogBroker) :=
  (broker.locate place).map fun n =>
    (⟨n, start⟩, { broker with openStreams := broker.openStreams + 1 })

/-- Reads a stream. -/
def poll (broker : LogBroker) (cursor : Cursor) : Reading × Cursor × LogBroker :=
  let (reading, log) := (broker.log cursor.log).read cursor.next
  (reading, cursor.advance reading, { broker with logs := broker.logs.set cursor.log log })

/-- Gives a stream up. -/
def release (broker : LogBroker) : LogBroker :=
  { broker with openStreams := broker.openStreams - 1 }

/-- Creates a topic, unless it is there. -/
def create (broker : LogBroker) (topic : String) (spec : TopicSpec) : LogBroker :=
  if broker.topics.contains topic then broker
  else
    let added := broker.addTopic topic spec.partitions
    { added with created := added.created ++ [topic] }

instance : Client LogBroker Cursor where
  partitions := partitions
  lookup broker place query :=
    match broker.lookup place query with
    | .ok offset => .answer offset
    | .error e => .refusal e
  attach := attach
  poll := poll
  release broker _ := broker.release
  create broker topic spec := .ok (broker.create topic spec)

end LogBroker

end TopicReplay.Broker
