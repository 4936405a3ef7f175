import TopicReplay.Proofs.Consumer.Move
import TopicReplay.Session.Crew

/-!
# Steps of a crew

A step of a crew is a move of one of its consumers. `stepAt?_eq_some_iff` says so, and the
lemmas beside it say what the step makes of everything that the consumers share.
-/

namespace TopicReplay

open Broker (Client)
open Store (OffsetStore)

namespace Crew

variable {β σ ρ : Type} [Client β σ] [OffsetStore ρ]

/-- What is around the consumers of a crew. -/
def around (crew : Crew σ) (client : β) (store : ρ) (now : Nat) : Consumer.Surroundings β ρ where
  client := client
  store := store
  channel := crew.channel
  stop := crew.stop
  now := now

omit [Client β σ] [OffsetStore ρ] in
theorem isOver_eq_false_iff {crew : Crew σ} :
    crew.isOver = false ↔ ∃ consumer ∈ crew.consumers, consumer.ending? = none := by
  simp [isOver]

section Parts

variable (crew : Crew σ) (now index : Nat) (place : TopicPartition) (emission : Consumer.Emission)
  (consumer : Consumer σ)

@[simp]
theorem consumers_replace :
    (crew.replace index consumer).consumers = crew.consumers.set index consumer := rfl

@[simp]
theorem channel_replace : (crew.replace index consumer).channel = crew.channel := rfl

@[simp]
theorem stats_replace : (crew.replace index consumer).stats = crew.stats := rfl

@[simp]
theorem stop_replace : (crew.replace index consumer).stop = crew.stop := rfl

@[simp]
theorem consumers_absorb : (crew.absorb now place emission).consumers = crew.consumers := by
  cases emission <;> rfl

@[simp]
theorem stop_absorb : (crew.absorb now place emission).stop = crew.stop := by
  cases emission <;> rfl

@[simp]
theorem unnoted_absorb : (crew.absorb now place emission).unnoted = crew.unnoted := by
  cases emission <;> rfl

@[simp]
theorem receiving_absorb :
    (crew.absorb now place emission).channel.receiving = crew.channel.receiving := by
  cases emission <;> rfl

@[simp]
theorem capacity_absorb :
    (crew.absorb now place emission).channel.capacity = crew.channel.capacity := by
  cases emission <;> rfl

@[simp]
theorem buffer_absorb :
    (crew.absorb now place emission).channel.buffer = crew.channel.buffer ++ emission.events := by
  cases emission <;> simp [absorb, Channel.push, report]

@[simp]
theorem total_absorb :
    (crew.absorb now place emission).stats.total = crew.stats.total + emission.events.length := by
  cases emission <;> rfl

end Parts

variable {crew after : Crew σ} {client clientAfter : β} {store : ρ} {now index : Nat}

/-- A step of a crew is a move of one consumer, which is put back in its place. -/
theorem stepAt?_eq_some_iff :
    crew.stepAt? client store now index = some (after, clientAfter) ↔
      ∃ consumer outcome, crew.consumers[index]? = some consumer ∧
        Consumer.Move (crew.around client store now) consumer outcome ∧
        (crew.replace index outcome.consumer).absorb now consumer.place outcome.emission = after ∧
        outcome.client = clientAfter := by
  unfold stepAt?
  cases found : crew.consumers[index]? with
  | none => simp
  | some consumer =>
      simp only [Option.bind_eq_bind, Option.bind_some, Option.some.injEq, exists_and_left,
        exists_eq_left']
      constructor
      · intro stepped
        rcases Option.bind_eq_some_iff.mp stepped with ⟨outcome, moves, after_eq⟩
        cases after_eq
        exact ⟨outcome, Consumer.move_of_step? moves, rfl, rfl⟩
      · rintro ⟨outcome, moves, rfl, rfl⟩
        exact Option.bind_eq_some_iff.mpr ⟨outcome, Consumer.step?_of_move moves, rfl⟩

/-- A consumer that is taken down, unless it has ended. -/
def retire (consumer : Consumer σ) : Consumer σ :=
  if consumer.ending?.isSome then consumer else consumer.enter (.ended .aborted)

@[simp]
theorem place_retire (consumer : Consumer σ) : (retire consumer).place = consumer.place := by
  unfold retire
  split <;> rfl

theorem ending?_retire (consumer : Consumer σ) : (retire consumer).ending?.isSome = true := by
  unfold retire
  split
  · assumption
  · rfl

end Crew

end TopicReplay
