import TopicReplay.Proofs.Consumer.Fate

/-!
# Stopping at the end

A consumer that goes from some offset to the end of its partition is fated to deliver the
messages from the one to the other. It stops at the end that the partition had when the
bounds were resolved, and at once when the start is not before that end. One that goes on
from the stored offset is such a consumer. Only where the log was emptied and the start is
among what was dropped is there no message to stop with.
-/

namespace TopicReplay

open Broker (Client Cursor LogBroker PartitionLog)
open Store (OffsetStore)

/-- From the stored offset to the end. -/
def Span.remainder : Span := ⟨.stored, some .newest⟩

/-- One who meets the last message that is wanted stops there. -/
theorem Fate.ofMessages_of_endAt {place : TopicPartition} {bounds : Bounds} {closed : Bool}
    {before : List Message} {last : Message}
    (onward : ∀ m ∈ before ++ [last], bounds.start ≤ m.offset)
    (early : ∀ m ∈ before, bounds.endAt m = false) (reached : bounds.endAt last = true) :
    ofMessages place bounds closed (before ++ [last]) =
      { events := (before ++ [last]).map (·.toEvent place)
        ending := some (.finished .stopped) } := by
  induction before with
  | nil =>
      have above : bounds.start ≤ last.offset := onward last List.mem_cons_self
      simp [ofMessages, Int.not_lt.mpr above, reached]
  | cons m rest ih =>
      have above : bounds.start ≤ m.offset := onward m List.mem_cons_self
      have later := ih (fun m member => onward m (List.mem_cons_of_mem _ member))
        fun m member => early m (List.mem_cons_of_mem _ member)
      simp [ofMessages, Int.not_lt.mpr above, early m List.mem_cons_self, later, Fate.behind]

namespace Broker

/-- The last message that is left has the last offset of the log. -/
theorem PartitionLog.Dense.exists_last {log : PartitionLog} (dense : log.Dense) {next : Int}
    (below : max next log.low < log.high) :
    ∃ before last, log.onward next = before ++ [last] ∧ last.offset = log.high - 1 ∧
      (∀ m ∈ before, m.offset < log.high - 1) ∧ ∀ m ∈ log.onward next, next ≤ m.offset := by
  have offsets := dense.offsets_onward next
  obtain ⟨k, size⟩ : ∃ k : Nat, (log.high - max next log.low).toNat = k + 1 :=
    ⟨(log.high - max next log.low).toNat - 1, by omega⟩
  rw [size, List.range_succ, List.map_append] at offsets
  rcases List.map_eq_append_iff.mp offsets with ⟨before, rest, onward_eq, before_eq, rest_eq⟩
  rcases List.map_eq_singleton_iff.mp rest_eq with ⟨last, rfl, last_eq⟩
  simp only at last_eq
  have early (m : Message) (member : m ∈ before) : next ≤ m.offset ∧ m.offset < log.high - 1 := by
    have there := List.mem_map_of_mem (f := (·.offset)) member
    rw [before_eq] at there
    rcases List.mem_map.mp there with ⟨i, inside, offset_eq⟩
    have less := List.mem_range.mp inside
    omega
  refine ⟨before, last, onward_eq, by omega, fun m member => (early m member).2, fun m member => ?_⟩
  rw [onward_eq] at member
  rcases List.mem_append.mp member with here | there
  · exact (early m here).1
  · rw [List.mem_singleton.mp there]
    omega

/-- Whether a partition has a log that can be read and asked for its ends without an error
that does not pass. -/
structure LogBroker.Readable (broker : LogBroker) (place : TopicPartition) (n : Nat) : Prop where
  located : broker.locate place = .ok n
  passing : ∀ e ∈ (broker.log n).faults, e.isRetryable = true
  answers : broker.lookupFaults.get? place = none

/-- What leaves a partition as it was leaves it readable. -/
theorem LogBroker.Readable.same {broker after : LogBroker} {place : TopicPartition} {n : Nat}
    (readable : broker.Readable place n) (same : broker.Same place after) :
    after.Readable place n where
  located := same.located.trans readable.located
  passing := by
    rw [same.log n readable.located]
    exact readable.passing
  answers := same.lookup.trans readable.answers

theorem LogBroker.Readable.lookup_eq {broker : LogBroker} {place : TopicPartition} {n : Nat}
    (readable : broker.Readable place n) (query : OffsetQuery) :
    Client.lookup broker place query = .answer ((broker.log n).lookup query) := by
  have found : broker.lookup place query = .ok ((broker.log n).lookup query) := by
    rw [LogBroker.lookup_eq, LogBroker.part, readable.located, readable.answers]
    rfl
  simp only [Client.lookup, found]

end Broker

namespace Consumer

variable {ρ : Type} [OffsetStore ρ] {consumer : Consumer Cursor} {broker : LogBroker} {store : ρ}
  {n : Nat} {next : Int}

/-- A consumer that stops at the end of its partition is fated to deliver what is left from
its start on. It stops there, unless its start was dropped and nothing is left behind it: then
there is no message with which it could stop. -/
theorem fate_of_newest (sound : broker.Sound) (readable : broker.Readable consumer.place n)
    (phase : consumer.phase = .resolving)
    (resolves : resolve broker store consumer.environment consumer.place consumer.span =
      .value ⟨next, some (.offset ((broker.log n).high - 1))⟩) :
    consumer.fate broker store = {
      events := ((broker.log n).onward next).map (·.toEvent consumer.place)
      ending :=
        if next < (broker.log n).low ∧ (broker.log n).low = (broker.log n).high then
          if (broker.log n).closed then some (.finished .streamEnded) else none
        else some (.finished .stopped) } := by
  have part_eq : broker.part consumer.place = .ok (broker.log n) := by
    rw [LogBroker.part, readable.located]
    rfl
  have faultless : (broker.log n).faults.find? (!·.isRetryable) = none := by
    rw [List.find?_eq_none]
    intro e member
    simp [readable.passing e member]
  have low_le_high := (broker.log n).low_le_high
  have onward_eq_nil (above : (broker.log n).high ≤ max next (broker.log n).low) :
      (broker.log n).onward next = [] :=
    PartitionLog.onward_of_messageAt?_eq_none ((PartitionLog.messageAt?_eq_none_iff _ _).mpr above)
  simp only [fate, phase, resolves, part_eq, Fate.ofBounds, Bounds.areCrossed]
  by_cases crossed : (broker.log n).high - 1 < next
  · have started : ¬(next < (broker.log n).low ∧ (broker.log n).low = (broker.log n).high) := by
      omega
    simp [crossed, started, onward_eq_nil (by omega)]
  · simp only [crossed, decide_false, Bool.false_eq_true, ite_false, Fate.ofPart, Fate.ofLog,
      faultless]
    by_cases below : max next (broker.log n).low < (broker.log n).high
    · have left : ¬(next < (broker.log n).low ∧ (broker.log n).low = (broker.log n).high) := by
        omega
      obtain ⟨before, last, onward_eq, last_eq, early, onward⟩ := (sound.dense n).exists_last below
      rw [onward_eq] at onward ⊢
      rw [if_neg left]
      apply Fate.ofMessages_of_endAt onward
      · intro m member
        exact decide_eq_false (Int.not_le.mpr (early m member))
      · simp [Bounds.endAt, StopBound.reachedBy, last_eq]
    · have emptied : next < (broker.log n).low ∧ (broker.log n).low = (broker.log n).high := by
        omega
      rw [onward_eq_nil (by omega), if_pos emptied]
      rfl

/-- A consumer that goes on from the stored offset is fated to deliver what is left. -/
theorem fate_of_remainder (sound : broker.Sound) (readable : broker.Readable consumer.place n)
    (phase : consumer.phase = .resolving) (span : consumer.span = .remainder)
    (stored : storedOffset? store consumer.environment consumer.place = some next)
    (low_le : (broker.log n).low ≤ next) :
    consumer.fate broker store = {
      events := ((broker.log n).onward next).map (·.toEvent consumer.place)
      ending := some (.finished .stopped) } := by
  have resolves : resolve broker store consumer.environment consumer.place consumer.span =
      .value ⟨next, some (.offset ((broker.log n).high - 1))⟩ := by
    rw [span]
    simp only [resolve, Span.remainder, resolveStart, stored, resolveStop, readable.lookup_eq]
    rfl
  rw [fate_of_newest sound readable phase resolves, if_neg fun emptied => ?_]
  exact absurd emptied.1 (Int.not_lt.mpr low_le)

end Consumer

end TopicReplay
