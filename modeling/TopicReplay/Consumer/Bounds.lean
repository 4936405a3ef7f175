import TopicReplay.Consumer.Basic
import TopicReplay.Store.Basic

/-!
# Resolving bounds

The start of a span is resolved first and its stop second. A start from the offset
store is the stored offset, or the end of the partition where none is stored or
the store cannot be read. A stop at the end of the partition is the last message
that the partition has at that moment.
-/

namespace TopicReplay.Consumer

open Broker (Client OffsetQuery Reply)
open Store (OffsetStore TopicKey)

/-- What comes of resolving bounds. -/
inductive Resolved (α : Type) where
  | value (a : α)
  | error (e : RunError)
  | breakdown
  deriving DecidableEq

/-- Goes on with a value. -/
def Resolved.andThen {α β : Type} (resolved : Resolved α) (f : α → Resolved β) : Resolved β :=
  match resolved with
  | .value a => f a
  | .error e => .error e
  | .breakdown => .breakdown

/-- What comes of a question to a broker. -/
def Resolved.ofReply {α : Type} : Reply α → Resolved α
  | .answer a => .value a
  | .refusal e => .error (.broker e)
  | .breakdown => .breakdown

variable {β σ ρ : Type} [Client β σ] [OffsetStore ρ]

/-- The stored offset of a partition. A store that cannot be read has none. -/
def storedOffset? (store : ρ) (environment : String) (place : TopicPartition) : Option Int :=
  match OffsetStore.read store ⟨environment, place.topic⟩ with
  | .ok record => record.get? place.partition
  | .error _ => none

/-- The offset that a start checkpoint means. -/
def resolveStart (client : β) (store : ρ) (environment : String) (place : TopicPartition)
    (start : Checkpoint) : Resolved Int :=
  let ask (query : OffsetQuery) : Resolved Int := .ofReply (Client.lookup client place query)
  match start with
  | .offset n => .value n
  | .oldest => ask .oldest
  | .newest => ask .newest
  | .time t => ask (.time t)
  | .stored =>
      match storedOffset? store environment place with
      | some n => .value n
      | none => ask .newest

/-- The bound that a stop checkpoint means. -/
def resolveStop (client : β) (place : TopicPartition) : Checkpoint → Resolved StopBound
  | .offset n => .value (.offset n)
  | .time t => .value (.time t)
  | .newest =>
      (Resolved.ofReply (Client.lookup client place .newest)).andThen fun high =>
        .value (.offset (high - 1))
  | .oldest => .error (.checkpoint (.notAStop Checkpoint.oldest.display))
  | .stored => .error (.checkpoint (.notAStop Checkpoint.stored.display))

/-- The bounds that a span means. -/
def resolve (client : β) (store : ρ) (environment : String) (place : TopicPartition)
    (span : Span) : Resolved Bounds :=
  (resolveStart client store environment place span.start).andThen fun start =>
    match span.stop with
    | none => .value ⟨start, none⟩
    | some stop => (resolveStop client place stop).andThen fun bound => .value ⟨start, some bound⟩

end TopicReplay.Consumer
