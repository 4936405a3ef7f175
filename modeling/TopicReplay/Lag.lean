import TopicReplay.Broker.Basic
import TopicReplay.RemoteOffset
import TopicReplay.Store.Basic
import TopicReplay.Store.Listing

/-!
# Lag

The lag of a partition is how far its stored offset lies behind the end that its
broker tells. It is never negative: a stored offset may lie past the end of a
partition that was made anew.
-/

namespace TopicReplay

open Broker (Client)
open Store (OffsetStore Filter StoredOffset TopicKey TopicRecord Row)

variable {β σ ρ : Type} [Client β σ] [OffsetStore ρ]

/-- The end of a partition as its broker tells it. -/
def remoteOffset (client : β) (place : TopicPartition) : RemoteOffset :=
  match Client.lookup client place .newest with
  | .answer newest => .known newest
  | .refusal e => if e.isNotFound then .notFound else .unknown e.message
  | .breakdown => .unknown ""

/-- How far an offset lies behind a remote one, where that is known. -/
def lagBehind (remote : RemoteOffset) (offset : Int) : Option Int :=
  remote.known?.map fun newest => max (newest - offset) 0

/-- The lag of one partition. -/
structure PartitionLag where
  partition : Int
  stored : Int
  remote : RemoteOffset
  lag : Option Int
  deriving DecidableEq, Repr

/-- The lag of one stored offset of a topic. -/
def PartitionLag.of (client : β) (topic : String) (partition stored : Int) : PartitionLag :=
  let remote := remoteOffset client ⟨topic, partition⟩
  { partition, stored, remote, lag := lagBehind remote stored }

/-- The lag of every stored offset of a topic. -/
def partitionLags (client : β) (topic : String) (record : TopicRecord) : List PartitionLag :=
  record.offsets.toList.map fun (partition, stored) => .of client topic partition stored

/-- A lag as JSON. -/
def PartitionLag.toJson (lag : PartitionLag) : Json :=
  .object [
    ("partition", .int lag.partition),
    ("stored", .int lag.stored),
    ("remote", lag.remote.toJson),
    ("lag", .ofOption .int lag.lag)]

/-- The row of a stored offset, without the end of its partition. -/
def Store.StoredOffset.row (stored : StoredOffset) : Row where
  environment := stored.environment
  topic := stored.topic
  partition := stored.partition
  offset := stored.offset
  updatedAt := stored.updatedAt

namespace Store.Row

/-- The topic that a row belongs to. -/
def key (row : Row) : TopicKey := ⟨row.environment, row.topic⟩

/-- Whether a row speaks of a partition of a topic. -/
def speaksOf (key : TopicKey) (partition : Int) (row : Row) : Bool :=
  row.environment == key.environment && row.topic == key.topic && row.partition == partition

/-- A row with the end of its partition and the lag behind it. -/
def note (lag : PartitionLag) (row : Row) : Row :=
  { row with remote := some lag.remote, lag := lag.lag }

end Store.Row

/-- Puts the lag of a topic's partition into the first row that speaks of it. -/
def noteLag (key : TopicKey) (lag : PartitionLag) : List Row → List Row
  | [] => []
  | row :: rest =>
      if row.speaksOf key lag.partition then row.note lag :: rest
      else row :: noteLag key lag rest

/-- The offsets of rows, by topic. -/
def recordsByTopic (rows : List Row) : OrderedMap TopicKey TopicRecord :=
  rows.foldl (fun records row =>
    records.update row.key fun record =>
      { offsets := (record.getD {}).offsets.insert row.partition row.offset }) .empty

/-- Rows with the ends of their partitions, of which the client is asked topic by topic. -/
def withLags (client : β) (rows : List Row) : List Row :=
  (recordsByTopic rows).toList.foldl (fun rows (key, record) =>
    (partitionLags client key.topic record).foldl (fun rows lag => noteLag key lag rows) rows) rows

/-- The rows of the stored offsets that a filter selects, with the ends of their
partitions where there is a client to ask. -/
def listOffsets (store : ρ) (filter : Filter) (client : Option β) :
    Except Store.Error (List Row) := do
  let rows := (← OffsetStore.list store filter).map StoredOffset.row
  return match client with
    | some client => withLags client rows
    | none => rows

end TopicReplay
