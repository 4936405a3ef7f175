import TopicReplay.OrderedMap
import TopicReplay.Text.Integer

/-!
# Partitions

A topic is divided into numbered partitions. A partition is addressed by the name
of its topic and its number, and addresses are ordered by topic first.
-/

namespace TopicReplay

/-- The address of one partition of a topic. -/
structure TopicPartition where
  topic : String
  partition : Int
  deriving DecidableEq, Repr, Inhabited

namespace TopicPartition

/-- Addresses are ordered by topic and then by number. -/
instance : Ord TopicPartition where
  compare := compareLex (compareOn (·.topic)) (compareOn (·.partition))

instance : Std.TransOrd TopicPartition :=
  inferInstanceAs
    (Std.TransCmp (compareLex (compareOn TopicPartition.topic) (compareOn partition)))

instance : Std.LawfulEqOrd TopicPartition where
  compare_self :=
    @fun _ => @Std.ReflCmp.compare_self _ (compareLex (compareOn topic) (compareOn partition)) _ _
  eq_of_compare {first second} h := by
    have both := compareLex_eq_eq.mp h
    rcases first with ⟨topic, partition⟩
    rcases second with ⟨otherTopic, otherPartition⟩
    rw [mk.injEq]
    exact ⟨Std.LawfulEqOrd.eq_of_compare both.1, Std.LawfulEqOrd.eq_of_compare both.2⟩

/-- The text of an address: topic, slash, number. -/
def display (place : TopicPartition) : String :=
  place.topic ++ "/" ++ Text.integerString place.partition

/-- Sorts addresses. -/
def sort (places : List TopicPartition) : List TopicPartition :=
  places.mergeSort fun first second => compare first second != .gt

end TopicPartition

/-- Which partitions of a topic an expression speaks of. -/
inductive PartitionScope where
  | all
  | partition (number : Int)
  deriving DecidableEq, Repr

/-- The text of a scope. -/
def PartitionScope.display : PartitionScope → String
  | .all => "all partitions"
  | .partition number => "partition " ++ Text.integerString number

end TopicReplay
