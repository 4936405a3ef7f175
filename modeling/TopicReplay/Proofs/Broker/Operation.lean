import TopicReplay.Proofs.Broker.Part
import TopicReplay.Proofs.Except

/-!
# Operations on a partition

Producers append messages to a partition, retention drops the messages below an offset, a
partition is closed, and errors are injected for its readers. In whatever order this is done
to a new partition, the messages that are left have consecutive offsets, no offset is given
twice, neither end of the partition goes back, and a search by time finds the first message
from the instant on. `partition_orderly` says so of the answers that the broker gives.
-/

namespace TopicReplay.Broker

/-- What is done to a partition. -/
inductive Operation where
  | produce (key : Option Text.Bytes) (value : Text.Bytes) (timestamp : Instant)
  | truncate (offset : Int)
  | close
  | inject (e : Error)

namespace Operation

/-- What an operation makes of a log. -/
def change : Operation → PartitionLog → PartitionLog
  | .produce key value timestamp, log => log.append key (some value) (some timestamp)
  | .truncate offset, log => log.truncate offset
  | .close, log => log.close
  | .inject e, log => log.inject e

/-- The offset that an operation gives, if it appends a message. -/
def offset? : Operation → PartitionLog → Option Int
  | .produce _ _ _, log => some log.high
  | .truncate _, _ | .close, _ | .inject _, _ => none

/-- What operations make of a log, one after the other. -/
def changeAll (operations : List Operation) (log : PartitionLog) : PartitionLog :=
  operations.foldl (fun log operation => operation.change log) log

/-- The offsets that operations give, one after the other. -/
def offsets : List Operation → PartitionLog → List Int
  | [], _ => []
  | operation :: rest, log => (operation.offset? log).toList ++ offsets rest (operation.change log)

end Operation

namespace PartitionLog

/-! ## Truncation and search -/

/-- Every message lies where its offset says. -/
theorem Dense.exists_position {log : PartitionLog} (dense : log.Dense) {m : Message}
    (member : m ∈ log.messages) :
    ∃ i : Nat, log.messages[i]? = some m ∧ m.offset = log.low + i := by
  rcases List.getElem?_of_mem member with ⟨i, found⟩
  exact ⟨i, found, dense i m found⟩

/-- The offsets of messages lie between the ends of the log. -/
theorem Dense.bounds {log : PartitionLog} (dense : log.Dense) {m : Message}
    (member : m ∈ log.messages) : log.low ≤ m.offset ∧ m.offset < log.high := by
  obtain ⟨i, found, offset_eq⟩ := dense.exists_position member
  have inside := (List.getElem?_eq_some_iff.mp found).choose
  unfold high
  omega

theorem low_truncate (log : PartitionLog) (offset : Int) :
    (log.truncate offset).low = max log.low offset := by
  unfold truncate
  split
  · omega
  · simp only
    omega

/-- Truncation keeps exactly the messages from the offset on. -/
theorem Dense.messages_truncate {log : PartitionLog} (dense : log.Dense) (offset : Int) :
    (log.truncate offset).messages = log.messages.filter fun m => offset ≤ m.offset := by
  unfold PartitionLog.truncate
  split
  · symm
    rw [List.filter_eq_self]
    intro m member
    have above := (dense.bounds member).1
    exact decide_eq_true (by omega)
  · have dropped : (log.messages.take (offset - log.low).toNat).filter
        (fun m => offset ≤ m.offset) = [] := by
      rw [List.filter_eq_nil_iff]
      intro m member
      rcases List.mem_take_iff_getElem.mp member with ⟨i, inside, message_eq⟩
      have offset_eq := dense i m (List.getElem?_eq_some_iff.mpr ⟨by omega, message_eq⟩)
      rw [decide_eq_true_eq]
      omega
    have kept : (log.messages.drop (offset - log.low).toNat).filter
        (fun m => offset ≤ m.offset) = log.messages.drop (offset - log.low).toNat := by
      rw [List.filter_eq_self]
      intro m member
      rcases List.getElem?_of_mem member with ⟨i, found⟩
      rw [List.getElem?_drop] at found
      have offset_eq := dense _ m found
      exact decide_eq_true (by omega)
    calc
      log.messages.drop (offset - log.low).toNat
          = (log.messages.take (offset - log.low).toNat ++
              log.messages.drop (offset - log.low).toNat).filter fun m => offset ≤ m.offset := by
        rw [List.filter_append, dropped, kept, List.nil_append]
      _ = log.messages.filter fun m => offset ≤ m.offset := by rw [List.take_append_drop]

theorem isFrom_eq_true_iff {t : Instant} {m : Message} :
    isFrom t m = true ↔ ∃ stamp, m.timestamp = some stamp ∧ compare stamp t ≠ .lt := by
  simp [isFrom, Instant.atOrAfter, Option.any_eq_true]

theorem isFrom_eq_false_iff {t : Instant} {m : Message} :
    isFrom t m = false ↔ ∀ stamp, m.timestamp = some stamp → compare stamp t = .lt := by
  simp [isFrom, Instant.atOrAfter, Option.any_eq_false]

/-- Whether an offset divides a log at an instant: the messages before it are from before the
instant, and the one at it is not, unless the log ends there. -/
structure DividesAt (log : PartitionLog) (t : Instant) (offset : Int) : Prop where
  low_le : log.low ≤ offset
  le_high : offset ≤ log.high
  before : ∀ m ∈ log.messages, m.offset < offset →
    ∀ stamp, m.timestamp = some stamp → compare stamp t = .lt
  here : offset < log.high → ∃ m ∈ log.messages, m.offset = offset ∧
    ∃ stamp, m.timestamp = some stamp ∧ compare stamp t ≠ .lt

/-- A search by time finds such an offset, whatever the order of the timestamps. -/
theorem Dense.dividesAt_lookup {log : PartitionLog} (dense : log.Dense) (t : Instant) :
    log.DividesAt t (log.lookup (.time t)) := by
  cases search : log.messages.find? (isFrom t) with
  | none =>
      have offset_eq : log.lookup (.time t) = log.high := by simp [lookup, search]
      rw [offset_eq]
      refine ⟨log.low_le_high, Int.le_refl _, fun m member _ => ?_, fun below => ?_⟩
      · apply isFrom_eq_false_iff.mp
        exact Bool.eq_false_iff.mpr (List.find?_eq_none.mp search m member)
      · exact absurd below (Int.lt_irrefl _)
  | some first =>
      have offset_eq : log.lookup (.time t) = first.offset := by simp [lookup, search]
      obtain ⟨isFrom_first, i, inside, at_i, earlier⟩ := List.find?_eq_some_iff_getElem.mp search
      have member : first ∈ log.messages := List.mem_of_find?_eq_some search
      have first_eq := dense i first (List.getElem?_eq_some_iff.mpr ⟨inside, at_i⟩)
      obtain ⟨low_le, lt_high⟩ := dense.bounds member
      rw [offset_eq]
      refine ⟨low_le, Int.le_of_lt lt_high, fun m m_member below => ?_, fun _ => ?_⟩
      · obtain ⟨j, found, m_eq⟩ := dense.exists_position m_member
        have j_lt : j < i := by omega
        have at_j : log.messages[j] = m := (List.getElem?_eq_some_iff.mp found).choose_spec
        apply isFrom_eq_false_iff.mp
        simpa [at_j] using earlier j j_lt
      · exact ⟨first, member, rfl, isFrom_eq_true_iff.mp isFrom_first⟩

end PartitionLog

namespace Operation

open PartitionLog

/-! ## Operations on a log -/

theorem dense_change (operation : Operation) {log : PartitionLog} (dense : log.Dense) :
    (operation.change log).Dense := by
  cases operation with
  | produce key value timestamp => exact dense.append _ _ _
  | truncate offset => exact dense.truncate offset
  | close => exact dense
  | inject e => exact dense

theorem low_le_low_change (operation : Operation) (log : PartitionLog) :
    log.low ≤ (operation.change log).low := by
  cases operation with
  | produce key value timestamp => exact Int.le_refl _
  | truncate offset => exact log.low_le_low_truncate offset
  | close => exact Int.le_refl _
  | inject e => exact Int.le_refl _

/-- No operation takes the end of a log back, not even one that drops all messages. -/
theorem high_le_high_change (operation : Operation) (log : PartitionLog) :
    log.high ≤ (operation.change log).high := by
  cases operation with
  | produce key value timestamp =>
      rw [change, high_append]
      omega
  | truncate offset => exact log.high_le_high_truncate offset
  | close => exact Int.le_refl _
  | inject e => exact Int.le_refl _

/-- An offset that is given was the end of the log, which then lies behind it. -/
theorem of_offset? {operation : Operation} {log : PartitionLog} {offset : Int}
    (gives : operation.offset? log = some offset) :
    offset = log.high ∧ offset < (operation.change log).high := by
  cases operation with
  | produce key value timestamp =>
      cases gives
      rw [change, high_append]
      omega
  | truncate offset => cases gives
  | close => cases gives
  | inject e => cases gives

/-- Whether the messages of a log have consecutive offsets, and each of them a timestamp. -/
structure Tidy (log : PartitionLog) : Prop where
  dense : log.Dense
  stamped : ∀ m ∈ log.messages, ∃ stamp, m.timestamp = some stamp

theorem tidy_default : Tidy {} where
  dense := dense_default
  stamped _ member := absurd member List.not_mem_nil

theorem Tidy.change {log : PartitionLog} (tidy : Tidy log) (operation : Operation) :
    Tidy (operation.change log) where
  dense := operation.dense_change tidy.dense
  stamped m member := by
    cases operation with
    | produce key value timestamp =>
        rcases List.mem_append.mp member with old | new
        · exact tidy.stamped m old
        · cases List.mem_singleton.mp new
          exact ⟨timestamp, rfl⟩
    | truncate offset =>
        rw [Operation.change, tidy.dense.messages_truncate] at member
        exact tidy.stamped m (List.mem_filter.mp member).1
    | close => exact tidy.stamped m member
    | inject e => exact tidy.stamped m member

/-- What every operation keeps, operations keep. -/
theorem changeAll_of_change (holds : PartitionLog → Prop)
    (step : ∀ (operation : Operation) (log : PartitionLog),
      holds log → holds (operation.change log))
    (operations : List Operation) {log : PartitionLog} (first : holds log) :
    holds (changeAll operations log) := by
  induction operations generalizing log with
  | nil => exact first
  | cons operation rest ih => exact ih (step operation log first)

theorem Tidy.changeAll {log : PartitionLog} (tidy : Tidy log) (operations : List Operation) :
    Tidy (changeAll operations log) :=
  changeAll_of_change Tidy (fun operation _ kept => kept.change operation) operations tidy

theorem low_le_low_changeAll (operations : List Operation) (log : PartitionLog) :
    log.low ≤ (changeAll operations log).low :=
  changeAll_of_change (fun after => log.low ≤ after.low)
    (fun operation after le => Int.le_trans le (operation.low_le_low_change after)) operations
    (Int.le_refl _)

theorem high_le_high_changeAll (operations : List Operation) (log : PartitionLog) :
    log.high ≤ (changeAll operations log).high :=
  changeAll_of_change (fun after => log.high ≤ after.high)
    (fun operation after le => Int.le_trans le (operation.high_le_high_change after)) operations
    (Int.le_refl _)

theorem offsets_append (operations later : List Operation) (log : PartitionLog) :
    offsets (operations ++ later) log =
      offsets operations log ++ offsets later (changeAll operations log) := by
  induction operations generalizing log with
  | nil => rfl
  | cons operation rest ih =>
      rw [List.cons_append, offsets, offsets, ih, List.append_assoc]
      rfl

/-- The offsets that are given lie between the ends that the log has before and after. -/
theorem bounds_of_mem_offsets {operations : List Operation} {log : PartitionLog} {offset : Int}
    (member : offset ∈ offsets operations log) :
    log.high ≤ offset ∧ offset < (changeAll operations log).high := by
  induction operations generalizing log with
  | nil => cases member
  | cons operation rest ih =>
      rcases List.mem_append.mp member with here | there
      · obtain ⟨offset_eq, lt⟩ := of_offset? (Option.mem_toList.mp here)
        have le := high_le_high_changeAll rest (operation.change log)
        exact ⟨Int.le_of_eq offset_eq.symm, Int.lt_of_lt_of_le lt le⟩
      · obtain ⟨le, lt⟩ := ih there
        exact ⟨Int.le_trans (operation.high_le_high_change log) le, lt⟩

/-- No offset is given again, nor is a lower one. -/
theorem pairwise_offsets (operations : List Operation) (log : PartitionLog) :
    (offsets operations log).Pairwise (· < ·) := by
  induction operations generalizing log with
  | nil => exact .nil
  | cons operation rest ih =>
      refine List.pairwise_append.mpr ⟨?_, ih _, fun offset here later there => ?_⟩
      · cases operation.offset? log with
        | none => exact .nil
        | some offset => exact List.pairwise_singleton _ _
      · have lt := (of_offset? (Option.mem_toList.mp here)).2
        exact Int.lt_of_lt_of_le lt (bounds_of_mem_offsets there).1

end Operation

namespace LogBroker

/-! ## Operations on a partition of a broker -/

/-- Does one thing to a partition. Producing gives the offset of the message. -/
def operate (broker : LogBroker) (place : TopicPartition) :
    Operation → Except Error (Option Int × LogBroker)
  | .produce key value timestamp =>
      (broker.produce place key (some value) (some timestamp)).map (Prod.map some id)
  | .truncate offset =>
      (broker.change place fun log => log.truncate offset).map (Prod.mk none)
  | .close => (broker.change place PartitionLog.close).map (Prod.mk none)
  | .inject e => (broker.change place fun log => log.inject e).map (Prod.mk none)

/-- Does one thing after the other to a partition and gathers the offsets that are given. -/
def operateAll (broker : LogBroker) (place : TopicPartition) :
    List Operation → Except Error (List Int × LogBroker)
  | [] => .ok ([], broker)
  | operation :: rest => do
      let done ← broker.operate place operation
      let others ← done.2.operateAll place rest
      return (done.1.toList ++ others.1, others.2)

/-- Whether a broker has the log of a partition at a place. -/
structure KeepsAt (place : TopicPartition) (n : Nat) (broker : LogBroker) : Prop where
  located : broker.locate place = .ok n
  inside : n < broker.logs.length

variable {broker : LogBroker} {place : TopicPartition} {n : Nat}

theorem KeepsAt.part (keeps : KeepsAt place n broker) : broker.part place = .ok (broker.log n) := by
  rw [LogBroker.part, keeps.located]
  rfl

theorem KeepsAt.modify (keeps : KeepsAt place n broker) (f : PartitionLog → PartitionLog) :
    KeepsAt place n (broker.modify n f) where
  located := keeps.located
  inside := by simpa [LogBroker.modify] using keeps.inside

theorem KeepsAt.log_modify (keeps : KeepsAt place n broker) (f : PartitionLog → PartitionLog) :
    (broker.modify n f).log n = f (broker.log n) := by
  rw [LogBroker.log_modify, if_pos ⟨rfl, keeps.inside⟩]

/-- The partitions of a new topic are kept, and empty. -/
theorem keepsAt_addTopic (broker : LogBroker) (topic : String) {count partition : Int}
    (inside : 0 ≤ partition ∧ partition < count) :
    KeepsAt ⟨topic, partition⟩ (broker.logs.length + partition.toNat)
        (broker.addTopic topic count) ∧
      (broker.addTopic topic count).log (broker.logs.length + partition.toNat) = {} := by
  have below : partition.toNat < count.toNat := by omega
  refine ⟨⟨?_, ?_⟩, ?_⟩
  · rw [locate_eq_ok_iff]
    refine ⟨(List.range count.toNat).map (broker.logs.length + ·), ?_, inside.1, ?_⟩
    · exact OrderedMap.get?_insert_self _ _ _
    · simp [below]
  · simpa [addTopic] using below
  · rw [log_addTopic, log, List.getD_eq_getElem?_getD, List.getElem?_eq_none (by omega)]
    rfl

/-- Every operation on a partition that is there is done to its log. -/
theorem KeepsAt.operate_eq (keeps : KeepsAt place n broker) (operation : Operation) :
    broker.operate place operation =
      .ok (operation.offset? (broker.log n), broker.modify n operation.change) := by
  have changes (f : PartitionLog → PartitionLog) :
      broker.change place f = .ok (broker.modify n f) :=
    change_eq_ok_iff.mpr ⟨n, keeps.located, rfl⟩
  cases operation with
  | produce key value timestamp =>
      have produces : broker.produce place key (some value) (some timestamp) =
          .ok ((broker.log n).high, broker.modify n fun log =>
            log.append key (some value) (some timestamp)) :=
        produce_eq_ok_iff.mpr ⟨n, keeps.located, rfl, rfl⟩
      rw [operate, produces]
      rfl
  | truncate offset =>
      rw [operate, changes]
      rfl
  | close =>
      rw [operate, changes]
      rfl
  | inject e =>
      rw [operate, changes]
      rfl

/-- Operations on a partition that is there all succeed. -/
theorem KeepsAt.operateAll (keeps : KeepsAt place n broker) (operations : List Operation) :
    ∃ after, broker.operateAll place operations =
        .ok (Operation.offsets operations (broker.log n), after) ∧
      KeepsAt place n after ∧ after.log n = Operation.changeAll operations (broker.log n) ∧
      after.lookupFaults = broker.lookupFaults := by
  induction operations generalizing broker with
  | nil => exact ⟨broker, rfl, keeps, rfl, rfl⟩
  | cons operation rest ih =>
      obtain ⟨after, done, kept, log_eq, faults_eq⟩ := ih (keeps.modify operation.change)
      rw [keeps.log_modify] at done log_eq
      refine ⟨after, ?_, kept, log_eq, faults_eq⟩
      rw [LogBroker.operateAll, keeps.operate_eq]
      simp only [bind, Except.bind, done]
      rfl

/-- What a broker answers about a partition that has this log. -/
structure Orderly (place : TopicPartition) (log : PartitionLog) (broker : LogBroker) : Prop where
  part : broker.part place = .ok log
  /-- The messages have consecutive offsets from the lowest one on, and timestamps. -/
  tidy : Operation.Tidy log
  low_le_high : log.low ≤ log.high
  oldest : broker.lookup place .oldest = .ok log.low
  newest : broker.lookup place .newest = .ok log.high
  time : ∀ t, ∃ offset, broker.lookup place (.time t) = .ok offset ∧ log.DividesAt t offset
  /-- Truncation keeps exactly the messages from an offset on and raises the lowest one to it. -/
  truncated : ∀ offset, ∃ after cut, broker.operate place (.truncate offset) = .ok (none, after) ∧
    after.part place = .ok cut ∧
    (cut.messages = log.messages.filter fun m => offset ≤ m.offset) ∧
    cut.low = max log.low offset

theorem KeepsAt.orderly (keeps : KeepsAt place n broker) (tidy : Operation.Tidy (broker.log n))
    (unfailing : broker.lookupFaults.get? place = none) :
    broker.Orderly place (broker.log n) := by
  have lookup_eq (query : OffsetQuery) :
      broker.lookup place query = .ok ((broker.log n).lookup query) := by
    rw [LogBroker.lookup_eq, keeps.part, unfailing]
    rfl
  constructor
  · exact keeps.part
  · exact tidy
  · exact (broker.log n).low_le_high
  · exact lookup_eq .oldest
  · exact lookup_eq .newest
  · exact fun t => ⟨_, lookup_eq (.time t), tidy.dense.dividesAt_lookup t⟩
  · intro offset
    refine ⟨_, _, keeps.operate_eq (.truncate offset), (keeps.modify _).part, ?_, ?_⟩
    · rw [keeps.log_modify]
      exact tidy.dense.messages_truncate offset
    · rw [keeps.log_modify]
      exact PartitionLog.low_truncate _ offset

/-- Whatever is done to a new partition is done, and leaves it orderly. The offsets that are
given increase strictly all the while, and neither end of the partition goes back from where it
was before the later operations. -/
theorem partition_orderly {broker : LogBroker} {topic : String} {count partition : Int}
    (inside : 0 ≤ partition ∧ partition < count)
    (unfailing : broker.lookupFaults.get? ⟨topic, partition⟩ = none)
    (earlier later : List Operation) :
    ∃ before after log grown given more,
      (broker.addTopic topic count).operateAll ⟨topic, partition⟩ earlier = .ok (given, before) ∧
      before.operateAll ⟨topic, partition⟩ later = .ok (more, after) ∧
      before.Orderly ⟨topic, partition⟩ log ∧ after.Orderly ⟨topic, partition⟩ grown ∧
      (given ++ more).Pairwise (· < ·) ∧ (∀ offset ∈ given ++ more, offset < grown.high) ∧
      log.low ≤ grown.low ∧ log.high ≤ grown.high := by
  obtain ⟨keeps, log_new⟩ := broker.keepsAt_addTopic topic inside
  obtain ⟨before, done, kept, log_eq, faults_eq⟩ := keeps.operateAll earlier
  obtain ⟨after, moreDone, keptAfter, grown_eq, moreFaults_eq⟩ := kept.operateAll later
  have tidy : Operation.Tidy (before.log (broker.logs.length + partition.toNat)) := by
    rw [log_eq, log_new]
    exact Operation.tidy_default.changeAll earlier
  have tidy_after := tidy.changeAll later
  rw [← grown_eq] at tidy_after
  have unfailing_before : before.lookupFaults.get? ⟨topic, partition⟩ = none := by
    rw [faults_eq]
    exact unfailing
  have unfailing_after : after.lookupFaults.get? ⟨topic, partition⟩ = none := by
    rw [moreFaults_eq]
    exact unfailing_before
  refine ⟨before, after, _, _, _, _, done, moreDone, kept.orderly tidy unfailing_before,
    keptAfter.orderly tidy_after unfailing_after, ?_, ?_, ?_, ?_⟩
  · rw [log_eq, ← Operation.offsets_append]
    exact Operation.pairwise_offsets _ _
  · intro offset member
    rw [grown_eq]
    rcases List.mem_append.mp member with early | late
    · have lt := (Operation.bounds_of_mem_offsets early).2
      rw [← log_eq] at lt
      exact Int.lt_of_lt_of_le lt (Operation.high_le_high_changeAll later _)
    · exact (Operation.bounds_of_mem_offsets late).2
  · rw [grown_eq]
    exact Operation.low_le_low_changeAll later _
  · rw [grown_eq]
    exact Operation.high_le_high_changeAll later _

/-- Two messages, of which the later one is from an earlier time, and the loss of both. -/
def losses : List Operation :=
  [.produce none [] ⟨20, 0, by decide⟩, .produce none [] ⟨10, 0, by decide⟩, .truncate 7]

/-- A partition that has lost its messages goes on behind them. -/
theorem partition_orderly_emptied :
    ∃ before after grown,
      (({} : LogBroker).addTopic "orders" 1).operateAll ⟨"orders", 0⟩ losses =
        .ok ([0, 1], before) ∧
      before.operateAll ⟨"orders", 0⟩ [.produce none [] .epoch] = .ok ([7], after) ∧
      after.Orderly ⟨"orders", 0⟩ grown ∧ grown.low = 7 ∧ grown.high = 8 := by
  have unfailing : ({} : LogBroker).lookupFaults.get? ⟨"orders", 0⟩ = none := rfl
  obtain ⟨before, after, log, grown, given, more, done, moreDone, -, orderly, -⟩ :=
    partition_orderly ⟨Int.le_refl 0, Int.zero_lt_one⟩ unfailing losses
      [.produce none [] .epoch]
  cases done
  cases moreDone
  cases orderly.part
  exact ⟨_, _, _, rfl, rfl, orderly, rfl, rfl⟩

end LogBroker

end TopicReplay.Broker
