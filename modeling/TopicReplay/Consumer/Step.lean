import TopicReplay.Consumer.Bounds
import TopicReplay.Consumer.Channel

/-!
# Steps of a consumer

A consumer goes on in steps: one question to its broker, one read of its stream,
one delivery. A consumer that was told to stop ends with its next step, whatever it
was about to do. Where a consumer has to wait, it has no step.
-/

namespace TopicReplay.Consumer

open Broker (Client Reading)
open Store (OffsetStore)

/-- How long a consumer rests after an error that may pass, in milliseconds. -/
def restTime : Nat := 100

/-- What a step gives off. -/
inductive Emission where
  | none
  | delivery (event : Event)
  | report (e : RunError)
  deriving DecidableEq

/-- What is around a consumer at a step. -/
structure Surroundings (β ρ : Type) where
  client : β
  store : ρ
  channel : Channel
  /-- Whether the consumer was told to stop. -/
  stop : Bool
  /-- The clock, in milliseconds. -/
  now : Nat

/-- What a step leads to. -/
structure Outcome (β σ : Type) where
  consumer : Consumer σ
  client : β
  emission : Emission := .none

variable {β σ ρ : Type} [Client β σ] [OffsetStore ρ]

/-- The consumer in another phase. -/
def enter (consumer : Consumer σ) (phase : Phase σ) : Consumer σ := { consumer with phase }

/-- Ends a consumer, which gives up the stream that it holds. -/
def finish (consumer : Consumer σ) (client : β) (ending : Ending) : Outcome β σ where
  consumer := consumer.enter (.ended ending)
  client :=
    match consumer.phase.stream? with
    | some stream => Client.release client stream
    | none => client

/-- Resolves the bounds. Bounds that are crossed end the consumer. -/
def stepResolving (consumer : Consumer σ) (client : β) (store : ρ) : Outcome β σ :=
  match resolve client store consumer.environment consumer.place consumer.span with
  | .value bounds =>
      if bounds.areCrossed then consumer.finish client (.finished .stopped)
      else { consumer := consumer.enter (.attaching bounds), client }
  | .error e => consumer.finish client (.failed e)
  | .breakdown => consumer.finish client .crashed

/-- Opens a stream. -/
def stepAttaching (consumer : Consumer σ) (client : β) (bounds : Bounds) : Outcome β σ :=
  match Client.attach client consumer.place bounds.start with
  | .ok (stream, client) => { consumer := consumer.enter (.reading bounds stream), client }
  | .error e => consumer.finish client (.failed (.broker e))

/-- Reads the stream. Messages before the start are passed over. -/
def stepReading (consumer : Consumer σ) (client : β) (now : Nat) (bounds : Bounds) (stream : σ) :
    Option (Outcome β σ) :=
  let (reading, stream, client) := Client.poll client stream
  let consumer := consumer.enter (.reading bounds stream)
  match reading with
  | .waiting => none
  | .ended => some (consumer.finish client (.finished .streamEnded))
  | .fault e =>
      if e.isRetryable then
        some {
          consumer := consumer.enter (.resting bounds stream (now + restTime))
          client
          emission := .report (.broker e) }
      else some (consumer.finish client (.failed (.broker e)))
  | .message m =>
      if m.offset < bounds.start then some { consumer, client }
      else
        let event := m.toEvent consumer.place
        some { consumer := consumer.enter (.sending bounds stream event (bounds.endAt m)), client }

/-- Delivers an event. -/
def stepSending (consumer : Consumer σ) (client : β) (channel : Channel) (bounds : Bounds)
    (stream : σ) (event : Event) (isLast : Bool) : Option (Outcome β σ) :=
  if !channel.receiving then some (consumer.finish client (.finished .cancelled))
  else if !channel.hasRoom then none
  else if isLast then
    some { consumer.finish client (.finished .stopped) with emission := .delivery event }
  else
    some {
      consumer := consumer.enter (.reading bounds stream)
      client
      emission := .delivery event }

/-- The step of a consumer, if it has one. -/
def step? (around : Surroundings β ρ) (consumer : Consumer σ) : Option (Outcome β σ) :=
  let client := around.client
  match consumer.phase with
  | .ended _ => none
  | phase =>
      if around.stop then some (consumer.finish client (.finished .cancelled))
      else
        match phase with
        | .resolving => some (consumer.stepResolving client around.store)
        | .attaching bounds => some (consumer.stepAttaching client bounds)
        | .reading bounds stream => consumer.stepReading client around.now bounds stream
        | .resting bounds stream wake =>
            if wake ≤ around.now then
              some { consumer := consumer.enter (.reading bounds stream), client }
            else none
        | .sending bounds stream event isLast =>
            consumer.stepSending client around.channel bounds stream event isLast
        | .ended _ => none

/-- When a consumer that rests reads again. -/
def wake? (consumer : Consumer σ) : Option Nat :=
  match consumer.phase with
  | .resting _ _ wake => some wake
  | _ => none

end TopicReplay.Consumer
