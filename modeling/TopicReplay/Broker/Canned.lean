import TopicReplay.Broker.Log

/-!
# Canned brokers

A canned broker answers from a script: what each question about a topic gives, and
the items of each partition's stream, whatever offset it is opened at. Its streams
end behind their items or wait there for ever.

`Cluster` is a log broker which a canned broker may stand in for.
-/

namespace TopicReplay.Broker

/-- What a canned broker answers about a topic. -/
structure CannedTopic where
  partitions : Except Error (List Int)
  oldest : Reply Int
  newest : Reply Int
  /-- The offset of every instant. -/
  time : Reply Int
  /-- The error of opening a stream, if it fails. -/
  refusal : Option Error
  /-- What the streams of the partitions give. -/
  items : OrderedMap Int (List (Except Error Message))
  /-- Whether streams wait behind their items. -/
  pending : Bool

/-- A broker that answers from a script. -/
structure CannedBroker where
  topics : OrderedMap String CannedTopic := .empty
  /-- The topics that come to be when they are created. -/
  creatable : OrderedMap String CannedTopic := .empty
  /-- The error of creating a topic, if that fails. -/
  createFault : Option Error := none

/-- The items that a stream has yet to give, and whether it waits behind them. -/
structure CannedStream where
  items : List (Except Error Message)
  pending : Bool

/-- Reads a stream. -/
def CannedStream.poll (stream : CannedStream) : Reading × CannedStream :=
  match stream.items with
  | .ok m :: rest => (.message m, { stream with items := rest })
  | .error e :: rest => (.fault e, { stream with items := rest })
  | [] => (if stream.pending then .waiting else .ended, stream)

namespace CannedBroker

/-- What is answered about a topic. -/
def topic (broker : CannedBroker) (name : String) : Except Error CannedTopic :=
  match broker.topics.get? name with
  | some topic => .ok topic
  | none => .error (.topicNotFound name)

/-- The offset that a query asks for. -/
def lookup (broker : CannedBroker) (place : TopicPartition) (query : OffsetQuery) : Reply Int :=
  match broker.topic place.topic, query with
  | .error e, _ => .refusal e
  | .ok topic, .oldest => topic.oldest
  | .ok topic, .newest => topic.newest
  | .ok topic, .time _ => topic.time

/-- Opens a stream. -/
def attach (broker : CannedBroker) (place : TopicPartition) : Except Error CannedStream := do
  let topic ← broker.topic place.topic
  if let some e := topic.refusal then throw e
  return ⟨topic.items.getD place.partition [], topic.pending⟩

/-- Creates a topic. One that the script does not know does not come to be. -/
def create (broker : CannedBroker) (name : String) : Except Error CannedBroker :=
  match broker.createFault, broker.creatable.get? name with
  | some e, _ => .error e
  | none, some topic => .ok { broker with topics := broker.topics.insert name topic }
  | none, none => .ok broker

end CannedBroker

/-- A log broker, and the canned one that stands in for it where there is one. -/
structure Cluster where
  logs : LogBroker := {}
  canned : Option CannedBroker := none

/-- A stream of a cluster. -/
inductive ClusterStream where
  | cursor (cursor : Cursor)
  | canned (stream : CannedStream)

namespace Cluster

/-- Opens a stream. -/
def attach (cluster : Cluster) (place : TopicPartition) (start : Int) :
    Except Error (ClusterStream × Cluster) :=
  match cluster.canned with
  | some canned => (canned.attach place).map fun stream => (.canned stream, cluster)
  | none =>
      (cluster.logs.attach place start).map fun (cursor, logs) =>
        (.cursor cursor, { cluster with logs })

/-- Reads a stream. -/
def poll (cluster : Cluster) : ClusterStream → Reading × ClusterStream × Cluster
  | .cursor cursor =>
      let (reading, cursor, logs) := cluster.logs.poll cursor
      (reading, .cursor cursor, { cluster with logs })
  | .canned stream =>
      let (reading, stream) := stream.poll
      (reading, .canned stream, cluster)

/-- Gives a stream up. -/
def release (cluster : Cluster) : ClusterStream → Cluster
  | .cursor _ => { cluster with logs := cluster.logs.release }
  | .canned _ => cluster

instance : Client Cluster ClusterStream where
  partitions cluster topic :=
    match cluster.canned with
    | some canned => do (← canned.topic topic).partitions
    | none => cluster.logs.partitions topic
  lookup cluster place query :=
    match cluster.canned with
    | some canned => canned.lookup place query
    | none => Client.lookup cluster.logs place query
  attach := attach
  poll := poll
  release := release
  create cluster topic spec :=
    match cluster.canned with
    | some canned => (canned.create topic).map fun canned => { cluster with canned := some canned }
    | none => .ok { cluster with logs := cluster.logs.create topic spec }

end Cluster

end TopicReplay.Broker
