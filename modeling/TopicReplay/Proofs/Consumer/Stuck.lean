import TopicReplay.Proofs.Consumer.Move

/-!
# Consumers without a step

A consumer that has not ended and was not told to stop lacks a step in three places only:
its stream has nothing to read yet, its rest is not over, or its event does not fit into
the channel. The clock helps a consumer that rests and the reader one that has an event to
deliver. One that waits for its stream depends on others.
-/

namespace TopicReplay.Consumer

open Broker (Client)
open Store (OffsetStore)

variable {β σ ρ : Type} [Client β σ] [OffsetStore ρ] {around : Surroundings β ρ}
  {consumer : Consumer σ}

/-- Whether a consumer reads a stream that has nothing to read yet. -/
def Waits (consumer : Consumer σ) (client : β) : Prop :=
  ∃ bounds stream next after, consumer.phase = .reading bounds stream ∧
    Client.poll client stream = (.waiting, next, after)

/-- The same as a computation. -/
def isWaiting (consumer : Consumer σ) (client : β) : Bool :=
  match consumer.phase with
  | .reading _ stream => (Client.poll client stream).1 == .waiting
  | _ => false

theorem isWaiting_iff {client : β} : consumer.isWaiting client = true ↔ consumer.Waits client := by
  unfold isWaiting Waits
  cases consumer.phase with
  | reading bounds stream => simp [and_assoc, Prod.ext_iff]
  | _ => simp

instance (client : β) : Decidable (consumer.Waits client) := decidable_of_iff _ isWaiting_iff

theorem ending?_of_waits {client : β} (waits : consumer.Waits client) :
    consumer.ending? = none := by
  rcases waits with ⟨bounds, stream, next, after, phase, -⟩
  rw [ending?, phase]

theorem stepReading_eq_none_iff {bounds : Bounds} {stream : σ} {client : β} {now : Nat} :
    consumer.stepReading client now bounds stream = none ↔
      ∃ next after, Client.poll client stream = (.waiting, next, after) := by
  unfold stepReading
  rcases Client.poll client stream with ⟨reading, next, after⟩
  cases reading with
  | waiting => simp
  | ended => simp
  | fault e => by_cases passing : e.isRetryable = true <;> simp [passing]
  | message m => by_cases early : m.offset < bounds.start <;> simp [early]

theorem stepSending_eq_none_iff {bounds : Bounds} {stream : σ} {event : Event} {isLast : Bool}
    {client : β} {channel : Channel} :
    consumer.stepSending client channel bounds stream event isLast = none ↔
      channel.receiving = true ∧ channel.hasRoom = false := by
  unfold stepSending
  cases channel.receiving <;> cases channel.hasRoom <;> cases isLast <;> simp

/-- What a consumer without a step is about to do. -/
theorem step?_eq_none_iff :
    consumer.step? around = none ↔
      (∃ ending, consumer.phase = .ended ending) ∨ around.stop = false ∧
        (consumer.Waits around.client ∨
          (∃ bounds stream wake, consumer.phase = .resting bounds stream wake ∧
            around.now < wake) ∨
          ∃ bounds stream event isLast, consumer.phase = .sending bounds stream event isLast ∧
            around.channel.receiving = true ∧ around.channel.hasRoom = false) := by
  unfold step? Waits
  cases consumer.phase with
  | ended ending => simp
  | resolving => cases around.stop <;> simp
  | attaching bounds => cases around.stop <;> simp
  | reading bounds stream => cases around.stop <;> simp [stepReading_eq_none_iff, and_assoc]
  | resting bounds stream wake => cases around.stop <;> simp [and_assoc]
  | sending bounds stream event isLast =>
      cases around.stop <;> simp [stepSending_eq_none_iff]

end TopicReplay.Consumer
