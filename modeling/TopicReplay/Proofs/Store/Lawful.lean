import TopicReplay.Consumer.Bounds
import TopicReplay.Store.Memory

/-!
# Lawful stores

What a reader relies on when it comes back to an offset store: a commit that succeeds
can be read again, and it leaves every other stored offset alone. The law speaks of
partitions of 32 bits and offsets of 64 bits only, since a store may keep its records
in a binary form.
-/

namespace TopicReplay.Store

open Consumer (storedOffset?)

/-- Whether a partition and an offset have the sizes that records keep. -/
def Storable (partition offset : Int) : Prop :=
  (Text.minInt32 ≤ partition ∧ partition ≤ Text.maxInt32) ∧
    Text.minInt64 ≤ offset ∧ offset ≤ Text.maxInt64

instance (partition offset : Int) : Decidable (Storable partition offset) :=
  inferInstanceAs (Decidable (_ ∧ _))

/-- A store whose successful commits can be read again and change nothing else. -/
class LawfulStore (ρ : Type) [OffsetStore ρ] : Prop where
  storedOffset?_commit {store after : ρ} {stamp : Instant} {environment : String}
    {place : TopicPartition} {next : Int} (fits : Storable place.partition next)
    (done : OffsetStore.commit store stamp ⟨environment, place.topic⟩ place.partition next =
      .ok after) (otherEnvironment : String) (other : TopicPartition) :
    storedOffset? after otherEnvironment other =
      if otherEnvironment = environment ∧ other = place then some next
      else storedOffset? store otherEnvironment other

/-- The law holds of a commit that sets an offset in one record and leaves the others alone. -/
theorem storedOffset?_of_reads {ρ : Type} [OffsetStore ρ] {store after : ρ} {stamp : Instant}
    {environment : String} {place : TopicPartition} {next : Int} {record : TopicRecord}
    (before : OffsetStore.read store ⟨environment, place.topic⟩ = .ok record)
    (changed : OffsetStore.read after ⟨environment, place.topic⟩ =
      .ok (record.set stamp place.partition next))
    (kept : ∀ key, key ≠ ⟨environment, place.topic⟩ →
      OffsetStore.read after key = OffsetStore.read store key)
    (otherEnvironment : String) (other : TopicPartition) :
    storedOffset? after otherEnvironment other =
      if otherEnvironment = environment ∧ other = place then some next
      else storedOffset? store otherEnvironment other := by
  by_cases sameKey : (⟨otherEnvironment, other.topic⟩ : TopicKey) = ⟨environment, place.topic⟩
  · rw [storedOffset?, storedOffset?, sameKey, changed, before]
    rw [TopicKey.mk.injEq] at sameKey
    rcases sameKey with ⟨rfl, sameTopic⟩
    by_cases samePartition : other.partition = place.partition
    · have same : other = place := by
        rcases other with ⟨_, _⟩
        rw [TopicPartition.mk.injEq]
        exact ⟨sameTopic, samePartition⟩
      rw [if_pos ⟨rfl, same⟩, samePartition]
      exact OrderedMap.get?_insert_self _ _ _
    · rw [if_neg fun both => samePartition (congrArg _ both.2)]
      exact OrderedMap.get?_insert_of_ne _ _ samePartition
  · rw [storedOffset?, storedOffset?, kept _ sameKey, if_neg]
    rintro ⟨rfl, rfl⟩
    exact sameKey rfl

theorem storedOffset?_commit_of_ne {ρ : Type} [OffsetStore ρ] [LawfulStore ρ] {store after : ρ}
    {stamp : Instant} {environment : String} {place : TopicPartition} {next : Int}
    (fits : Storable place.partition next)
    (done : OffsetStore.commit store stamp ⟨environment, place.topic⟩ place.partition next =
      .ok after) {otherEnvironment : String} {other : TopicPartition}
    (apart : ¬(otherEnvironment = environment ∧ other = place)) :
    storedOffset? after otherEnvironment other = storedOffset? store otherEnvironment other := by
  rw [LawfulStore.storedOffset?_commit fits done, if_neg apart]

namespace MemoryStore

theorem read_commit_self (store : MemoryStore) (stamp : Instant) (key : TopicKey)
    (partition offset : Int) :
    (store.commit stamp key partition offset).read key =
      (store.read key).set stamp partition offset := by
  simp [read, commit, OrderedMap.getD]

theorem read_commit_of_ne (store : MemoryStore) (stamp : Instant) {key other : TopicKey}
    (partition offset : Int) (apart : other ≠ key) :
    (store.commit stamp key partition offset).read other = store.read other := by
  simp only [read, commit, OrderedMap.getD]
  rw [OrderedMap.get?_update_of_ne _ _ apart]

instance : LawfulStore MemoryStore where
  storedOffset?_commit := by
    intro store after stamp environment place next _ done
    have after_eq : store.commit stamp ⟨environment, place.topic⟩ place.partition next = after :=
      Except.ok.inj done
    subst after_eq
    apply storedOffset?_of_reads rfl
    · exact congrArg Except.ok (read_commit_self store stamp _ _ _)
    · intro other apart
      exact congrArg Except.ok (read_commit_of_ne store stamp _ _ apart)

end MemoryStore

end TopicReplay.Store
