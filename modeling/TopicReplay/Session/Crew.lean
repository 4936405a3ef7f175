import TopicReplay.Consumer.Step
import TopicReplay.Stats

/-!
# Crews

A crew is the consumers of one run with what they share: the channel for their
events, the statistics, the errors they report and the signal to stop. Each step
of a crew is a step of one of its consumers. A consumer that has ended waits to be
taken note of, in the order in which the consumers ended.
-/

namespace TopicReplay

open Broker (Client)
open Store (OffsetStore)

/-- The consumers of one run and what they share. -/
structure Crew (σ : Type) where
  consumers : List (Consumer σ)
  /-- The consumers that ended and were not taken note of, by their place in the list. -/
  unnoted : List Nat := []
  channel : Channel
  stats : Stats
  reports : List PartitionError := []
  /-- Whether the consumers were told to stop. -/
  stop : Bool := false

namespace Crew

variable {β σ ρ : Type} [Client β σ] [OffsetStore ρ]

/-- Whether every consumer has ended. -/
def isOver (crew : Crew σ) : Bool := crew.consumers.all fun consumer => consumer.ending?.isSome

/-- Whether there will be no more events to receive. -/
def isDry (crew : Crew σ) : Bool := crew.isOver && crew.channel.buffer.isEmpty

/-- Whether every consumer has ended and was taken note of. -/
def isSettled (crew : Crew σ) : Bool := crew.isOver && crew.unnoted.isEmpty

/-- Reports an error at a partition. -/
def report (crew : Crew σ) (place : TopicPartition) (e : RunError) : Crew σ :=
  { crew with reports := crew.reports ++ [⟨place, e⟩] }

/-- Takes up what a step gave off. A delivery counts as activity. -/
def absorb (crew : Crew σ) (now : Nat) (place : TopicPartition) : Consumer.Emission → Crew σ
  | .none => crew
  | .delivery event =>
      { crew with
        channel := crew.channel.push event
        stats := crew.stats.record now place event.offset }
  | .report e => crew.report place e

/-- Puts a consumer in its place, and notes when it has ended. -/
def replace (crew : Crew σ) (index : Nat) (consumer : Consumer σ) : Crew σ :=
  { crew with
    consumers := crew.consumers.set index consumer
    unnoted := if consumer.ending?.isSome then crew.unnoted ++ [index] else crew.unnoted }

/-- The step of one consumer, if it has one. -/
def stepAt? (crew : Crew σ) (client : β) (store : ρ) (now index : Nat) : Option (Crew σ × β) := do
  let consumer ← crew.consumers[index]?
  let outcome ← consumer.step? { client, store, channel := crew.channel, stop := crew.stop, now }
  let crew := (crew.replace index outcome.consumer).absorb now consumer.place outcome.emission
  return (crew, outcome.client)

/-- The step of the first consumer that has one. -/
def step? (crew : Crew σ) (client : β) (store : ρ) (now : Nat) : Option (Crew σ × β) :=
  (List.range crew.consumers.length).findSome? (crew.stepAt? client store now)

/-- The times at which consumers that rest read again. -/
def wakes (crew : Crew σ) : List Nat := crew.consumers.filterMap Consumer.wake?

/-- Ends the consumers that have not ended, and gives their streams up. -/
def abort (crew : Crew σ) (client : β) : Crew σ × β :=
  let (consumers, client) := crew.consumers.foldr (fun consumer (rest, client) =>
    if consumer.ending?.isSome then (consumer :: rest, client)
    else
      let outcome := consumer.finish client .aborted
      (outcome.consumer :: rest, outcome.client)) ([], client)
  ({ crew with consumers, unnoted := [] }, client)

end Crew

end TopicReplay
