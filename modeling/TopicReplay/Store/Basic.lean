import TopicReplay.Store.Filter
import TopicReplay.Store.Record

/-!
# Offset stores

An offset store keeps, for every topic of an environment, the next offset to read
of each partition.
-/

namespace TopicReplay.Store

/-- A topic of an environment. -/
structure TopicKey where
  environment : String
  topic : String
  deriving DecidableEq, Repr

namespace TopicKey

/-- Topics are ordered by environment and then by name. -/
instance : Ord TopicKey where
  compare := compareLex (compareOn (·.environment)) (compareOn (·.topic))

instance : Std.TransOrd TopicKey :=
  inferInstanceAs (Std.TransCmp (compareLex (compareOn TopicKey.environment) (compareOn topic)))

instance : Std.LawfulEqOrd TopicKey where
  compare_self := @fun _ =>
    @Std.ReflCmp.compare_self _ (compareLex (compareOn environment) (compareOn topic)) _ _
  eq_of_compare {first second} h := by
    have both := compareLex_eq_eq.mp h
    rcases first with ⟨environment, topic⟩
    rcases second with ⟨otherEnvironment, otherTopic⟩
    rw [mk.injEq]
    exact ⟨Std.LawfulEqOrd.eq_of_compare both.1, Std.LawfulEqOrd.eq_of_compare both.2⟩

end TopicKey

/-- One stored offset with where it is stored. -/
structure StoredOffset where
  environment : String
  topic : String
  partition : Int
  offset : Int
  updatedAt : Option Instant
  deriving DecidableEq, Repr

namespace StoredOffset

/-- The topic that a stored offset belongs to. -/
def key (row : StoredOffset) : TopicKey := ⟨row.environment, row.topic⟩

/-- Stored offsets are ordered by environment, by topic and then by partition. -/
def order (first second : StoredOffset) : Ordering :=
  (compare first.key second.key).then (compare first.partition second.partition)

/-- Sorts stored offsets. -/
def sort (rows : List StoredOffset) : List StoredOffset :=
  rows.mergeSort fun first second => first.order second != .gt

end StoredOffset

/-- The stored offsets of a record, ascending by partition. -/
def TopicRecord.stored (record : TopicRecord) (key : TopicKey) : List StoredOffset :=
  record.offsets.toList.map fun (partition, offset) =>
    ⟨key.environment, key.topic, partition, offset, record.updatedAt⟩

/-- Whether a filter selects a topic of an environment. -/
def Filter.selects (filter : Filter) (key : TopicKey) : Bool :=
  filter.matchesEnvironment key.environment && filter.matchesTopic key.topic

/-- A place where offsets are stored. A commit that fails has no effect. -/
class OffsetStore (ρ : Type) where
  /-- The record of a topic, which is empty where nothing is stored. -/
  read : ρ → TopicKey → Except Error TopicRecord
  /-- Stores the offset of a partition at an instant. -/
  commit : ρ → Instant → TopicKey → Int → Int → Except Error ρ
  /-- The stored offsets that a filter selects, ascending. -/
  list : ρ → Filter → Except Error (List StoredOffset)
  /-- Deletes one topic of an environment, or all, and counts the removed records. -/
  delete : ρ → String → Option String → Nat × ρ

end TopicReplay.Store
