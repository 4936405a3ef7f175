import TopicReplay.Store.Basic

/-!
# Stores in memory

A memory store is a map from topics of environments to records, and lasts as long
as its process. A faulty store is one whose reads or commits fail.
-/

namespace TopicReplay.Store

/-- A store that lasts as long as its process. -/
structure MemoryStore where
  records : OrderedMap TopicKey TopicRecord := .empty
  deriving DecidableEq, Repr

namespace MemoryStore

/-- The record of a topic, which is empty where nothing is stored. -/
def read (store : MemoryStore) (key : TopicKey) : TopicRecord := store.records.getD key {}

/-- Stores the offset of a partition. -/
def commit (store : MemoryStore) (now : Instant) (key : TopicKey) (partition offset : Int) :
    MemoryStore where
  records := store.records.update key fun record => (record.getD {}).set now partition offset

/-- How many topics have a record. -/
def size (store : MemoryStore) : Nat := store.records.size

/-- Whether no topic has a record. -/
def isEmpty (store : MemoryStore) : Bool := store.records.isEmpty

/-- All stored offsets, ascending by environment, topic and partition. -/
def toList (store : MemoryStore) : List StoredOffset :=
  store.records.toList.flatMap fun (key, record) => record.stored key

/-- The stored offsets of the topics among entries that a filter selects. -/
def selected (filter : Filter) (entries : List (TopicKey × TopicRecord)) : List StoredOffset :=
  (entries.filter fun (key, _) => filter.selects key).flatMap fun (key, record) =>
    record.stored key

/-- The stored offsets that a filter selects, sorted. -/
def list (store : MemoryStore) (filter : Filter) : List StoredOffset :=
  StoredOffset.sort (selected filter store.records.toList)

/-- The topics whose records a deletion removes: one topic of an environment or all. -/
def isCovered (environment : String) (topic : Option String) (key : TopicKey) : Bool :=
  key.environment == environment && topic.all (key.topic == ·)

/-- Deletes one topic of an environment, or all of them, and counts the records
that were removed. -/
def delete (store : MemoryStore) (environment : String) (topic : Option String) :
    Nat × MemoryStore :=
  let kept := store.records.filter fun key _ => !isCovered environment topic key
  (store.records.size - kept.size, ⟨kept⟩)

instance : OffsetStore MemoryStore where
  read store key := .ok (store.read key)
  commit store now key partition offset := .ok (store.commit now key partition offset)
  list store filter := .ok (store.list filter)
  delete := delete

end MemoryStore

/-- A store in memory whose reads or commits fail. -/
structure FaultyStore where
  inner : MemoryStore := {}
  /-- The error of every read, if they fail. -/
  readFault : Option Error := none
  /-- The error of every commit, if they fail. -/
  commitFault : Option Error := none

namespace FaultyStore

instance : OffsetStore FaultyStore where
  read store key :=
    match store.readFault with
    | some e => .error e
    | none => .ok (store.inner.read key)
  commit store now key partition offset :=
    match store.commitFault with
    | some e => .error e
    | none => .ok { store with inner := store.inner.commit now key partition offset }
  list store filter := .ok (store.inner.list filter)
  delete store environment topic :=
    let (removed, inner) := store.inner.delete environment topic
    (removed, { store with inner })

end FaultyStore

end TopicReplay.Store
