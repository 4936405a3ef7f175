import TopicReplay.Proofs.Consumer.Alone
import TopicReplay.Proofs.Consumer.Exposed
import TopicReplay.Proofs.Consumer.Remainder

/-!
# Stopping at the current end

A consumer that stops at the end that its partition has when the bounds are resolved comes
to deliver all that is left from its start on and to stop. There is one exception: a start
that was dropped from a log of which nothing is left. Its bound lies behind the start and no
message will ever reach it, so that the consumer waits at the end of the log.
-/

namespace TopicReplay

open Broker (Cursor LogBroker)
open Relation (ReflTransGen)
open Store (MemoryStore OffsetStore)

namespace Consumer

variable {ρ : Type} [OffsetStore ρ] {consumer : Consumer Cursor} {broker : LogBroker} {store : ρ}
  {place : TopicPartition} {n : Nat}

/-- A readable partition gives every start checkpoint an offset. Only one that was given, or
stored, may have been dropped. -/
theorem resolveStart_eq_value (sound : broker.Sound) (readable : broker.Readable place n)
    (store : ρ) (environment : String) (checkpoint : Checkpoint) :
    ∃ start, resolveStart broker store environment place checkpoint = .value start ∧
      (start < (broker.log n).low → checkpoint = .offset start ∨
        checkpoint = .stored ∧ storedOffset? store environment place = some start) := by
  have asked (query : Broker.OffsetQuery) :
      ∃ start, Resolved.ofReply (Broker.Client.lookup broker place query) = .value start ∧
        (broker.log n).low ≤ start := by
    refine ⟨(broker.log n).lookup query, ?_, (sound.dense n).low_le_lookup query⟩
    rw [readable.lookup_eq]
    rfl
  have kept {start : Int} {P : Prop} (low_le : (broker.log n).low ≤ start)
      (dropped : start < (broker.log n).low) : P :=
    absurd dropped (Int.not_lt.mpr low_le)
  cases checkpoint with
  | offset start => exact ⟨start, rfl, fun _ => .inl rfl⟩
  | stored =>
      cases stored : storedOffset? store environment place with
      | some start => exact ⟨start, by simp only [resolveStart, stored], fun _ => .inr ⟨rfl, rfl⟩⟩
      | none =>
          rcases asked .newest with ⟨start, found, low_le⟩
          exact ⟨start, by simp only [resolveStart, stored, found], kept low_le⟩
  | oldest =>
      rcases asked .oldest with ⟨start, found, low_le⟩
      exact ⟨start, found, kept low_le⟩
  | newest =>
      rcases asked .newest with ⟨start, found, low_le⟩
      exact ⟨start, found, kept low_le⟩
  | time t =>
      rcases asked (.time t) with ⟨start, found, low_le⟩
      exact ⟨start, found, kept low_le⟩

/-- The bounds of a consumer that stops at the end. -/
theorem resolve_of_newest (readable : broker.Readable consumer.place n)
    (stop : consumer.span.stop = some .newest) {start : Int}
    (starts : resolveStart broker store consumer.environment consumer.place consumer.span.start =
      .value start) :
    resolve broker store consumer.environment consumer.place consumer.span =
      .value ⟨start, some (.offset ((broker.log n).high - 1))⟩ := by
  simp only [resolve, starts, stop, resolveStop, readable.lookup_eq]
  rfl

/-- A consumer that stops at the end of its partition always comes to deliver what is left
from its start on, and to stop, unless its start was dropped and nothing is left. Then, and
only while the log is open, it can come to wait for its stream. The start of a span that
begins at an end or an instant was not dropped. -/
theorem stops_at_newest_iff (sound : broker.Sound) (readable : broker.Readable consumer.place n)
    (phase : consumer.phase = .resolving) (stop : consumer.span.stop = some .newest) :
    ∃ start, resolveStart broker store consumer.environment consumer.place consumer.span.start =
        .value start ∧
      ((broker.log n).onward start).map (·.offset) =
        (List.range ((broker.log n).high - max start (broker.log n).low).toNat).map
          (fun i : Nat => max start (broker.log n).low + i) ∧
      (Alone.Comes store (fun last =>
          last.delivered = ((broker.log n).onward start).map (·.toEvent consumer.place) ∧
          last.consumer.ending? = some (.finished .stopped)) { broker, consumer } ↔
        ¬(start < (broker.log n).low ∧ (broker.log n).low = (broker.log n).high)) ∧
      ((∃ last, ReflTransGen (Alone.Step store) { broker, consumer } last ∧
          last.consumer.Waits last.broker) ↔
        start < (broker.log n).low ∧ (broker.log n).low = (broker.log n).high ∧
          (broker.log n).closed = false) ∧
      (start < (broker.log n).low → consumer.span.start = .offset start ∨
        consumer.span.start = .stored ∧
          storedOffset? store consumer.environment consumer.place = some start) := by
  rcases resolveStart_eq_value sound readable store consumer.environment consumer.span.start with
    ⟨start, starts, dropped⟩
  have resolves := resolve_of_newest readable stop starts
  have fate_eq := fate_of_newest sound readable phase resolves
  refine ⟨start, starts, (sound.dense n).offsets_onward start, ?_, ?_, dropped⟩
  · have comes_iff : Alone.Comes store (fun last =>
          last.delivered = [] ++ (consumer.fate broker store).events ∧
          last.consumer.ending? = some (.finished .stopped)) { broker, consumer } ↔
        (consumer.fate broker store).ending = some (.finished .stopped) :=
      Alone.comes_ended_iff { broker, consumer } sound
    rw [fate_eq] at comes_iff
    apply comes_iff.trans
    by_cases emptied : start < (broker.log n).low ∧ (broker.log n).low = (broker.log n).high
    · rw [if_pos emptied]
      constructor
      · intro ended
        split at ended <;> cases ended
      · exact fun left => absurd emptied left
    · simp [emptied]
  · rw [Alone.exists_waits_iff { broker, consumer } sound, fate_eq]
    by_cases emptied : start < (broker.log n).low ∧ (broker.log n).low = (broker.log n).high
    · rw [if_pos emptied, ite_eq_right_iff]
      constructor
      · intro opened
        refine ⟨emptied.1, emptied.2, Bool.eq_false_iff.mpr fun closed => ?_⟩
        cases opened closed
      · rintro ⟨-, -, opened⟩ closed
        rw [opened] at closed
        cases closed
    · rw [if_neg emptied]
      constructor
      · intro ended
        cases ended
      · exact fun all => absurd ⟨all.1, all.2.1⟩ emptied

section Emptied

open Broker.LogBroker (Change change_eq_ok_iff changes_orders orders sound_orders)

/-- A consumer of a whole partition of the small broker. -/
def whole : Consumer Cursor where
  environment := "default"
  place := ⟨"orders", 0⟩
  span := ⟨.oldest, some .newest⟩

/-- Both messages are delivered in every run. -/
theorem stops_at_newest_iff_whole :
    Alone.Comes ({} : MemoryStore)
      (fun last => last.delivered.map (·.offset) = [0, 1] ∧
        last.consumer.ending? = some (.finished .stopped))
      { broker := orders, consumer := whole } := by
  have readable : orders.Readable whole.place 0 :=
    ⟨by decide +kernel, by decide +kernel, by decide +kernel⟩
  obtain ⟨start, starts, -, comes_iff, -⟩ :=
    @stops_at_newest_iff MemoryStore _ whole orders {} 0 sound_orders readable rfl rfl
  have from_zero : resolveStart orders ({} : MemoryStore) whole.environment whole.place .oldest =
      .value 0 := by
    decide +kernel
  cases from_zero.symm.trans starts
  refine (comes_iff.mpr (by decide +kernel)).imp fun last ends => ⟨?_, ends.2⟩
  rw [ends.1]
  decide +kernel

/-- The small broker without the messages of its first partition. -/
def emptied : LogBroker := orders.modify 0 fun log => log.truncate 2

/-- A consumer that stops at the end can come to wait for its stream. -/
theorem exists_waits_for_newest :
    ¬∀ (broker : LogBroker) (environment : String) (place : TopicPartition) (n : Nat)
      (first : Checkpoint) (store : MemoryStore) (last : Alone),
      ReflTransGen Change {} broker → broker.locate place = .ok n → (broker.log n).faults = [] →
      broker.lookupFaults.get? place = none →
      ReflTransGen (Alone.Step store)
        { broker, consumer := { environment, place, span := ⟨first, some .newest⟩ } } last →
      ¬last.consumer.Waits last.broker := by
  intro never
  have located : orders.locate ⟨"orders", 0⟩ = .ok 0 := by decide +kernel
  have drops : orders.Change emptied := .truncate (change_eq_ok_iff.mpr ⟨0, located, rfl⟩)
  have sound : emptied.Sound := drops.sound sound_orders
  let consumer : Consumer Cursor := { whole with span := ⟨.offset 0, some .newest⟩ }
  have readable : emptied.Readable consumer.place 0 :=
    ⟨by decide +kernel, by decide +kernel, by decide +kernel⟩
  have resolves : resolve emptied ({} : MemoryStore) consumer.environment consumer.place
      consumer.span = .value ⟨0, some (.offset ((emptied.log 0).high - 1))⟩ := by
    decide +kernel
  have endless : (consumer.fate emptied ({} : MemoryStore)).ending = none := by
    rw [fate_of_newest sound readable rfl resolves]
    decide +kernel
  rcases (Alone.exists_waits_iff { broker := emptied, consumer } sound).mpr endless with
    ⟨last, runs, waits⟩
  exact never emptied "default" ⟨"orders", 0⟩ 0 (.offset 0) {} last (changes_orders.tail drops)
    (by decide +kernel) (by decide +kernel) (by decide +kernel) runs waits

end Emptied

end Consumer

end TopicReplay
