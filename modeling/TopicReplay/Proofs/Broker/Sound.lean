import Mathlib.Logic.Relation
import TopicReplay.Proofs.Broker.Dense
import TopicReplay.Proofs.Broker.Ordered

/-!
# Sound brokers of logs

A broker of logs is sound when its logs are dense and every partition has a log of its
own. What can be done to a broker keeps it sound. It also never takes back: the ends of a
log do not fall, and a topic that was replaced does not return to the logs that it had.
-/

namespace TopicReplay.Broker.LogBroker

variable {broker after : LogBroker} {place other : TopicPartition} {n : Nat}

theorem locate_eq_ok_iff :
    broker.locate place = .ok n ↔
      ∃ logs, broker.topics.get? place.topic = some logs ∧ 0 ≤ place.partition ∧
        logs[place.partition.toNat]? = some n := by
  unfold locate
  cases broker.topics.get? place.topic with
  | none => simp
  | some logs =>
      by_cases inside : 0 ≤ place.partition
      · cases found : logs[place.partition.toNat]? <;> simp [inside, found]
      · simp [inside]

/-- Finding a log asks for nothing but the topics. -/
theorem locate_congr (same : after.topics.get? place.topic = broker.topics.get? place.topic) :
    after.locate place = broker.locate place := by
  rw [locate, locate, same]

/-- A broker with dense logs and a log of its own for every partition. -/
structure Sound (broker : LogBroker) : Prop where
  dense : ∀ n, (broker.log n).Dense
  /-- A topic has logs that are there. -/
  there : ∀ {topic logs} {n : Nat}, broker.topics.get? topic = some logs → n ∈ logs →
    n < broker.logs.length
  /-- No two partitions have one log. -/
  apart : ∀ {topic other logs others} {i j n : Nat}, broker.topics.get? topic = some logs →
    broker.topics.get? other = some others → logs[i]? = some n → others[j]? = some n →
    topic = other ∧ i = j

theorem Sound.lt_of_locate (sound : broker.Sound) (located : broker.locate place = .ok n) :
    n < broker.logs.length := by
  rcases locate_eq_ok_iff.mp located with ⟨logs, listed, -, found⟩
  exact sound.there listed (List.mem_of_getElem? found)

/-- Two partitions with one log are one. -/
theorem Sound.eq_of_locate (sound : broker.Sound) (located : broker.locate place = .ok n)
    (otherLocated : broker.locate other = .ok n) : place = other := by
  rcases locate_eq_ok_iff.mp located with ⟨logs, listed, inside, found⟩
  rcases locate_eq_ok_iff.mp otherLocated with ⟨others, otherListed, otherInside, otherFound⟩
  obtain ⟨topic_eq, partition_eq⟩ := sound.apart listed otherListed found otherFound
  rcases place with ⟨topic, partition⟩
  rcases other with ⟨otherTopic, otherPartition⟩
  simp only at topic_eq partition_eq inside otherInside
  rw [TopicPartition.mk.injEq]
  exact ⟨topic_eq, by omega⟩

/-- What a broker can turn into without taking back: its logs go on and its topics do not
return to logs that they had. -/
structure Follows (broker after : LogBroker) : Prop where
  length_le : broker.logs.length ≤ after.logs.length
  low_le : ∀ n < broker.logs.length, (broker.log n).low ≤ (after.log n).low
  high_le : ∀ n < broker.logs.length, (broker.log n).high ≤ (after.log n).high
  located : ∀ {place n}, n < broker.logs.length → after.locate place = .ok n →
    broker.locate place = .ok n

theorem Follows.refl (broker : LogBroker) : broker.Follows broker where
  length_le := Nat.le_refl _
  low_le _ _ := Int.le_refl _
  high_le _ _ := Int.le_refl _
  located _ := id

theorem Follows.trans {first second third : LogBroker} (early : first.Follows second)
    (late : second.Follows third) : first.Follows third where
  length_le := Nat.le_trans early.length_le late.length_le
  low_le n inside :=
    Int.le_trans (early.low_le n inside) (late.low_le n (Nat.lt_of_lt_of_le inside early.length_le))
  high_le n inside :=
    Int.le_trans (early.high_le n inside)
      (late.high_le n (Nat.lt_of_lt_of_le inside early.length_le))
  located inside located :=
    early.located inside (late.located (Nat.lt_of_lt_of_le inside early.length_le) located)

/-! ## Changes of single logs -/

/-- The broker with a log changed in its place. -/
def modify (broker : LogBroker) (n : Nat) (f : PartitionLog → PartitionLog) : LogBroker :=
  { broker with logs := broker.logs.modify n f }

theorem log_modify (broker : LogBroker) (n i : Nat) (f : PartitionLog → PartitionLog) :
    (broker.modify n f).log i =
      if n = i ∧ i < broker.logs.length then f (broker.log i) else broker.log i := by
  simp only [modify, log, List.getD_eq_getElem?_getD, List.getElem?_modify]
  by_cases inside : i < broker.logs.length
  · rw [List.getElem?_eq_getElem inside]
    by_cases same : n = i <;> simp [same, inside]
  · rw [List.getElem?_eq_none (by omega)]
    simp [inside]

theorem change_eq_ok_iff {f : PartitionLog → PartitionLog} :
    broker.change place f = .ok after ↔
      ∃ n, broker.locate place = .ok n ∧ broker.modify n f = after := by
  unfold change modify
  cases broker.locate place <;> simp [Except.map]

theorem Sound.modify (sound : broker.Sound) (n : Nat) {f : PartitionLog → PartitionLog}
    (dense : ∀ log : PartitionLog, log.Dense → (f log).Dense) : (broker.modify n f).Sound where
  dense i := by
    rw [log_modify]
    split
    · exact dense _ (sound.dense i)
    · exact sound.dense i
  there listed member := by
    have inside := sound.there listed member
    simpa [LogBroker.modify] using inside
  apart := sound.apart

theorem follows_modify (broker : LogBroker) (n : Nat) {f : PartitionLog → PartitionLog}
    (low_le : ∀ log : PartitionLog, log.low ≤ (f log).low)
    (high_le : ∀ log : PartitionLog, log.high ≤ (f log).high) :
    broker.Follows (broker.modify n f) where
  length_le := by simp [LogBroker.modify]
  low_le i _ := by
    rw [log_modify]
    split
    · exact low_le _
    · exact Int.le_refl _
  high_le i _ := by
    rw [log_modify]
    split
    · exact high_le _
    · exact Int.le_refl _
  located _ := id

/-! ## Reading streams -/

theorem poll_eq (broker : LogBroker) (cursor : Cursor) :
    broker.poll cursor =
      (((broker.log cursor.log).read cursor.next).1,
        cursor.advance ((broker.log cursor.log).read cursor.next).1,
        broker.modify cursor.log fun log => (log.read cursor.next).2) := by
  have logs_eq : broker.logs.set cursor.log ((broker.log cursor.log).read cursor.next).2 =
      broker.logs.modify cursor.log fun log => (log.read cursor.next).2 := by
    apply List.ext_getElem?
    intro i
    rw [List.getElem?_set, List.getElem?_modify]
    by_cases same : cursor.log = i
    · subst same
      by_cases inside : cursor.log < broker.logs.length
      · simp [log, List.getD_eq_getElem?_getD, inside]
      · simp [inside]
    · simp [same]
  simp only [poll, LogBroker.modify, logs_eq]

theorem of_poll {cursor next : Cursor} {reading : Reading}
    (polled : Client.poll broker cursor = (reading, next, after)) :
    ((broker.log cursor.log).read cursor.next).1 = reading ∧ cursor.advance reading = next ∧
      (broker.poll cursor).2.2 = after := by
  change broker.poll cursor = _ at polled
  refine ⟨?_, ?_, congrArg (·.2.2) polled⟩
  · rw [poll_eq] at polled
    exact congrArg (·.1) polled
  · rw [poll_eq] at polled
    have reading_eq : ((broker.log cursor.log).read cursor.next).1 = reading :=
      congrArg (·.1) polled
    rw [← reading_eq]
    exact congrArg (·.2.1) polled

theorem Sound.poll (sound : broker.Sound) (cursor : Cursor) : (broker.poll cursor).2.2.Sound := by
  rw [poll_eq]
  exact sound.modify _ fun log dense => dense.read _

theorem follows_poll (broker : LogBroker) (cursor : Cursor) :
    broker.Follows (broker.poll cursor).2.2 := by
  rw [poll_eq]
  exact follows_modify _ _ (fun log => by simp) fun log => by simp

/-- Reading one log leaves the others alone. -/
theorem log_poll_of_ne (broker : LogBroker) {cursor : Cursor} {i : Nat} (apart : cursor.log ≠ i) :
    (broker.poll cursor).2.2.log i = broker.log i := by
  rw [poll_eq, log_modify, if_neg fun both => apart both.1]

theorem log_poll_self (broker : LogBroker) (cursor : Cursor) :
    (broker.poll cursor).2.2.log cursor.log =
      ((broker.log cursor.log).read cursor.next).2 := by
  rw [poll_eq, log_modify]
  by_cases inside : cursor.log < broker.logs.length
  · rw [if_pos ⟨rfl, inside⟩]
  · have missing : broker.log cursor.log = {} := by
      rw [log, List.getD_eq_getElem?_getD, List.getElem?_eq_none (Nat.le_of_not_lt inside)]
      rfl
    rw [if_neg fun both => inside both.2, missing]
    rfl

@[simp]
theorem locate_poll (broker : LogBroker) (cursor : Cursor) (place : TopicPartition) :
    (broker.poll cursor).2.2.locate place = broker.locate place :=
  rfl

/-! ## Topics -/

@[simp]
theorem log_addTopic (broker : LogBroker) (topic : String) (partitions : Int) (i : Nat) :
    (broker.addTopic topic partitions).log i = broker.log i := by
  simp only [addTopic, log, List.getD_eq_getElem?_getD]
  by_cases inside : i < broker.logs.length
  · rw [List.getElem?_append_left inside]
  · rw [List.getElem?_append_right (Nat.le_of_not_lt inside),
      List.getElem?_eq_none (Nat.le_of_not_lt inside), List.getElem?_replicate]
    split <;> rfl

theorem locate_addTopic_of_ne (broker : LogBroker) {topic : String} (partitions : Int)
    (apart : place.topic ≠ topic) :
    (broker.addTopic topic partitions).locate place = broker.locate place :=
  locate_congr (OrderedMap.get?_insert_of_ne _ _ apart)

/-- The logs of a new topic are new ones. -/
theorem le_of_mem_addTopic {topic : String} {partitions : Int} {logs : List Nat} {n : Nat}
    (listed : (broker.addTopic topic partitions).topics.get? topic = some logs)
    (member : n ∈ logs) :
    broker.logs.length ≤ n ∧ n < (broker.addTopic topic partitions).logs.length := by
  simp only [addTopic, OrderedMap.get?_insert_self, Option.some.injEq] at listed
  subst listed
  rcases List.mem_map.mp member with ⟨k, inside, rfl⟩
  have below := List.mem_range.mp inside
  simp only [addTopic, List.length_append, List.length_replicate]
  omega

theorem Sound.addTopic (sound : broker.Sound) (topic : String) (partitions : Int) :
    (broker.addTopic topic partitions).Sound where
  dense i := by
    rw [log_addTopic]
    exact sound.dense i
  there {other logs n} listed member := by
    by_cases same : other = topic
    · subst same
      exact (le_of_mem_addTopic listed member).2
    · have old : broker.topics.get? other = some logs := by
        rw [← listed]
        exact (OrderedMap.get?_insert_of_ne _ _ same).symm
      have below := sound.there old member
      simp only [LogBroker.addTopic, List.length_append]
      omega
  apart {first second logs others i j n} listed otherListed found otherFound := by
    have older {name : String} {list : List Nat} (apart : name ≠ topic)
        (listed : (broker.addTopic topic partitions).topics.get? name = some list) :
        broker.topics.get? name = some list := by
      rw [← listed]
      exact (OrderedMap.get?_insert_of_ne _ _ apart).symm
    by_cases firstSame : first = topic
    · subst firstSame
      have new := (le_of_mem_addTopic listed (List.mem_of_getElem? found)).1
      by_cases secondSame : second = first
      · subst secondSame
        refine ⟨rfl, ?_⟩
        simp only [LogBroker.addTopic, OrderedMap.get?_insert_self,
          Option.some.injEq] at listed otherListed
        subst listed otherListed
        simp only [List.getElem?_map, Option.map_eq_some_iff] at found otherFound
        rcases found with ⟨k, atK, rfl⟩
        rcases otherFound with ⟨l, atL, same⟩
        have k_eq := (List.getElem?_eq_some_iff.mp atK).choose_spec
        have l_eq := (List.getElem?_eq_some_iff.mp atL).choose_spec
        rw [List.getElem_range] at k_eq l_eq
        omega
      · have old := sound.there (older secondSame otherListed) (List.mem_of_getElem? otherFound)
        omega
    · have old := sound.there (older firstSame listed) (List.mem_of_getElem? found)
      by_cases secondSame : second = topic
      · subst secondSame
        have new := (le_of_mem_addTopic otherListed (List.mem_of_getElem? otherFound)).1
        omega
      · exact sound.apart (older firstSame listed) (older secondSame otherListed) found otherFound

theorem follows_addTopic (broker : LogBroker) (topic : String) (partitions : Int) :
    broker.Follows (broker.addTopic topic partitions) where
  length_le := by simp [LogBroker.addTopic]
  low_le i _ := by simp
  high_le i _ := by simp
  located {place n} inside located := by
    by_cases same : place.topic = topic
    · rcases locate_eq_ok_iff.mp located with ⟨logs, listed, -, found⟩
      rw [same] at listed
      have new := (le_of_mem_addTopic listed (List.mem_of_getElem? found)).1
      omega
    · rwa [locate_addTopic_of_ne _ _ same] at located

/-- A topic that is there is not created again. -/
theorem create_of_contains {topic : String} (there : broker.topics.contains topic = true)
    (spec : TopicSpec) : broker.create topic spec = broker := by
  rw [create, if_pos there]

theorem Sound.create (sound : broker.Sound) (topic : String) (spec : TopicSpec) :
    (broker.create topic spec).Sound := by
  unfold LogBroker.create
  split
  · exact sound
  · have added := sound.addTopic topic spec.partitions
    exact ⟨added.dense, added.there, added.apart⟩

theorem follows_create (broker : LogBroker) (topic : String) (spec : TopicSpec) :
    broker.Follows (broker.create topic spec) := by
  unfold LogBroker.create
  split
  · exact .refl broker
  · have added := broker.follows_addTopic topic spec.partitions
    exact ⟨added.length_le, added.low_le, added.high_le, added.located⟩

/-! ## What happens to a broker -/

theorem produce_eq_ok_iff {key value : Option Text.Bytes} {timestamp : Option Instant}
    {offset : Int} :
    broker.produce place key value timestamp = .ok (offset, after) ↔
      ∃ n, broker.locate place = .ok n ∧ (broker.log n).high = offset ∧
        (broker.modify n fun log => log.append key value timestamp) = after := by
  simp only [produce, change, LogBroker.modify]
  cases broker.locate place with
  | error e => simp [bind, Except.bind]
  | ok n => simp [bind, Except.bind, Except.map, pure, Except.pure]

/-- What others may do to a broker at any time. -/
inductive Change (broker : LogBroker) : LogBroker → Prop where
  | produce {place : TopicPartition} {key value : Option Text.Bytes}
      {timestamp : Option Instant} {offset : Int} {after : LogBroker}
      (done : broker.produce place key value timestamp = .ok (offset, after)) : Change broker after
  | truncate {place : TopicPartition} {offset : Int} {after : LogBroker}
      (done : (broker.change place fun log => log.truncate offset) = .ok after) :
      Change broker after
  | close {place : TopicPartition} {after : LogBroker}
      (done : broker.change place PartitionLog.close = .ok after) : Change broker after
  | inject {place : TopicPartition} {e : Error} {after : LogBroker}
      (done : (broker.change place fun log => log.inject e) = .ok after) : Change broker after
  | addTopic (topic : String) (partitions : Int) : Change broker (broker.addTopic topic partitions)
  | create (topic : String) (spec : TopicSpec) : Change broker (broker.create topic spec)
  | failLookups (place : TopicPartition) (e : Error) : Change broker (broker.failLookups place e)

theorem Change.sound (change : broker.Change after) (sound : broker.Sound) : after.Sound := by
  cases change with
  | produce done =>
      rcases produce_eq_ok_iff.mp done with ⟨n, -, -, rfl⟩
      exact sound.modify n fun log dense => dense.append _ _ _
  | truncate done =>
      rcases change_eq_ok_iff.mp done with ⟨n, -, rfl⟩
      exact sound.modify n fun log dense => dense.truncate _
  | close done =>
      rcases change_eq_ok_iff.mp done with ⟨n, -, rfl⟩
      exact sound.modify n fun log dense => dense
  | inject done =>
      rcases change_eq_ok_iff.mp done with ⟨n, -, rfl⟩
      exact sound.modify n fun log dense => dense
  | addTopic topic partitions => exact sound.addTopic topic partitions
  | create topic spec => exact sound.create topic spec
  | failLookups place e => exact ⟨sound.dense, sound.there, sound.apart⟩

theorem Change.follows (change : broker.Change after) : broker.Follows after := by
  cases change with
  | produce done =>
      rcases produce_eq_ok_iff.mp done with ⟨n, -, -, rfl⟩
      apply follows_modify broker n
      · exact fun log => Int.le_refl _
      · intro log
        rw [PartitionLog.high_append]
        omega
  | truncate done =>
      rcases change_eq_ok_iff.mp done with ⟨n, -, rfl⟩
      exact follows_modify broker n (fun log => log.low_le_low_truncate _)
        fun log => log.high_le_high_truncate _
  | close done =>
      rcases change_eq_ok_iff.mp done with ⟨n, -, rfl⟩
      exact follows_modify broker n (fun log => Int.le_refl _) fun log => Int.le_refl _
  | inject done =>
      rcases change_eq_ok_iff.mp done with ⟨n, -, rfl⟩
      exact follows_modify broker n (fun log => Int.le_refl _) fun log => Int.le_refl _
  | addTopic topic partitions => exact follows_addTopic broker topic partitions
  | create topic spec => exact follows_create broker topic spec
  | failLookups place e =>
      exact ⟨Nat.le_refl _, fun _ _ => Int.le_refl _, fun _ _ => Int.le_refl _, fun _ => id⟩

/-! ## The laws of clients -/

theorem nodup_partitions {topic : String} {partitions : List Int}
    (listed : broker.partitions topic = .ok partitions) : partitions.Nodup := by
  unfold LogBroker.partitions at listed
  split at listed
  · cases listed
  · cases listed
    apply List.Pairwise.map _ _ List.nodup_range
    intro i j apart same
    exact apart (Int.ofNat.inj same)

theorem attach_eq_ok_iff {start : Int} {cursor : Cursor} :
    broker.attach place start = .ok (cursor, after) ↔
      ∃ n, broker.locate place = .ok n ∧ cursor = ⟨n, start⟩ ∧
        after = { broker with openStreams := broker.openStreams + 1 } := by
  unfold attach
  cases broker.locate place with
  | error e => simp [Except.map]
  | ok n => simp [Except.map, eq_comm]

theorem attach_eq_error_iff {start : Int} {e : Error} :
    broker.attach place start = .error e ↔ broker.locate place = .error e := by
  unfold attach
  cases broker.locate place <;> simp [Except.map]

theorem follows_attach {start : Int} {cursor : Cursor}
    (attaches : Client.attach broker place start = .ok (cursor, after)) : broker.Follows after := by
  rcases attach_eq_ok_iff.mp attaches with ⟨n, -, -, rfl⟩
  exact ⟨Nat.le_refl _, fun _ _ => Int.le_refl _, fun _ _ => Int.le_refl _, fun _ => id⟩

theorem follows_release (broker : LogBroker) (cursor : Cursor) :
    broker.Follows (Client.release broker cursor) :=
  ⟨Nat.le_refl _, fun _ _ => Int.le_refl _, fun _ _ => Int.le_refl _, fun _ => id⟩

instance : OrderedClient LogBroker Cursor where
  Sound := Sound
  position cursor := cursor.next
  nodup_partitions _ listed := nodup_partitions listed
  sound_create {_ _ topic spec} sound created := by
    cases created
    exact sound.create topic spec
  sound_attach sound attached := by
    rcases attach_eq_ok_iff.mp attached with ⟨n, -, -, rfl⟩
    exact ⟨sound.dense, sound.there, sound.apart⟩
  sound_release _ sound := ⟨sound.dense, sound.there, sound.apart⟩
  sound_poll {_ _ stream _ _} sound polled := by
    rw [← (of_poll polled).2.2]
    exact sound.poll stream
  position_le_poll {_ _ stream _ reading} sound polled := by
    obtain ⟨given, rfl, -⟩ := of_poll polled
    cases reading with
    | message m =>
        have found := (PartitionLog.read_eq_message_iff.mp given).2
        have offset_eq := ((sound.dense _).of_messageAt? found).1
        simp only [Cursor.advance]
        omega
    | fault e => exact Int.le_refl _
    | waiting => exact Int.le_refl _
    | ended => exact Int.le_refl _
  offset_poll {_ _ stream _ m} sound polled := by
    obtain ⟨given, rfl, -⟩ := of_poll polled
    have found := (PartitionLog.read_eq_message_iff.mp given).2
    have offset_eq := ((sound.dense _).of_messageAt? found).1
    simp only [Cursor.advance]
    omega

/-! ## A small broker -/

theorem sound_default : Sound {} where
  dense n := by
    simp only [log]
    exact PartitionLog.dense_default
  there listed member := by
    rw [OrderedMap.get?_empty] at listed
    cases listed
  apart listed otherListed found otherFound := by
    rw [OrderedMap.get?_empty] at listed
    cases listed

/-- A topic with two messages in its first partition and one in its second. -/
def orders : LogBroker :=
  ((((({} : LogBroker).addTopic "orders" 2).modify 0 fun log => log.append none none none).modify 0
    fun log => log.append none none none).modify 1 fun log => log.append none none none)

theorem sound_orders : orders.Sound :=
  (((sound_default.addTopic "orders" 2).modify 0
    fun _ dense => dense.append none none none).modify 0
    fun _ dense => dense.append none none none).modify 1
    fun _ dense => dense.append none none none

/-- It can come to be. -/
theorem changes_orders : Relation.ReflTransGen Change {} orders := by
  have produce {broker : LogBroker} (place : TopicPartition) {n : Nat}
      (located : broker.locate place = .ok n) :
      broker.Change (broker.modify n fun log => log.append none none none) :=
    .produce (produce_eq_ok_iff.mpr ⟨n, located, rfl, rfl⟩)
  refine .tail (.tail (.tail (.single (.addTopic "orders" 2)) (produce ⟨"orders", 0⟩ ?_))
    (produce ⟨"orders", 0⟩ ?_)) (produce ⟨"orders", 1⟩ ?_)
  all_goals rfl

end TopicReplay.Broker.LogBroker
