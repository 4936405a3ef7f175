import TopicReplay.Proofs.Broker.Part
import TopicReplay.Proofs.Consumer.Move

/-!
# Consumers and logs

A consumer reads the log of its own partition and no other. Its steps take nothing back
from a broker, and they leave the partitions of others as they are.
-/

namespace TopicReplay

open Broker (Client Cursor LogBroker)
open Store (OffsetStore)

namespace Consumer

open Broker.LogBroker

variable {ρ : Type} [OffsetStore ρ] {around : Surroundings LogBroker ρ} {consumer : Consumer Cursor}
  {outcome : Outcome LogBroker Cursor} {place : TopicPartition}

/-- A consumer moves no log to another place. -/
theorem Move.locate_eq (move : Move around consumer outcome) (place : TopicPartition) :
    outcome.client.locate place = around.client.locate place :=
  move.of_client (P := fun client => client.locate place = around.client.locate place)
    (fun attaches => (same_attach attaches : Same place _ _).located)
    (fun _ polled => by rw [← (of_poll polled).2.2, locate_poll]) (fun _ located => located) rfl

/-- A consumer takes nothing back from a broker. -/
theorem Move.follows (move : Move around consumer outcome) :
    around.client.Follows outcome.client :=
  move.of_client (fun attaches => follows_attach attaches)
    (fun {cursor _ _ _} _ polled => (of_poll polled).2.2 ▸ follows_poll around.client cursor)
    (fun cursor follows => follows.trans (follows_release _ cursor)) (.refl _)

/-- A consumer without a stream over the log of a partition leaves the partition alone. -/
theorem Move.same (move : Move around consumer outcome)
    (apart : ∀ cursor, consumer.phase.stream? = some cursor →
      around.client.locate place ≠ .ok cursor.log) :
    around.client.Same place outcome.client :=
  move.of_client same_attach (fun found polled => same_poll polled (apart _ found))
    (fun cursor same => same.trans (same_release place _ cursor)) (.refl place _)

/-- A consumer goes on with its stream, or opens one over the log of its own partition. -/
theorem Move.log_eq (move : Move around consumer outcome) {cursor : Cursor}
    (found : outcome.consumer.phase.stream? = some cursor) :
    (∃ held, consumer.phase.stream? = some held ∧ held.log = cursor.log) ∨
      around.client.locate consumer.place = .ok cursor.log := by
  have advance (cursor : Cursor) (reading : Broker.Reading) :
      (cursor.advance reading).log = cursor.log := by
    cases reading <;> rfl
  cases move with
  | attached untold phase attaches =>
      cases found
      rcases attach_eq_ok_iff.mp attaches with ⟨n, located, rfl, -⟩
      exact .inr located
  | rested untold phase polled passing =>
      cases found
      exact .inl ⟨_, by rw [phase]; rfl, by rw [← (of_poll polled).2.1, advance]⟩
  | skipped untold phase polled before =>
      cases found
      exact .inl ⟨_, by rw [phase]; rfl, by rw [← (of_poll polled).2.1, advance]⟩
  | took untold phase polled onward =>
      cases found
      exact .inl ⟨_, by rw [phase]; rfl, by rw [← (of_poll polled).2.1, advance]⟩
  | woke untold phase due =>
      cases found
      exact .inl ⟨_, by rw [phase]; rfl, rfl⟩
  | delivered untold phase heard room =>
      cases found
      exact .inl ⟨_, by rw [phase]; rfl, rfl⟩
  | resolved untold phase resolves open_ => cases found
  | _ => cases found

/-- A consumer opens streams over the log of its own partition only. -/
theorem Move.stream (move : Move around consumer outcome) (sound : around.client.Sound)
    (anchored : ∀ cursor, consumer.phase.stream? = some cursor →
      (around.client.locate place = .ok cursor.log ↔ consumer.place = place)) :
    ∀ cursor, outcome.consumer.phase.stream? = some cursor →
      (around.client.locate place = .ok cursor.log ↔ consumer.place = place) := by
  intro cursor found
  rcases move.log_eq found with ⟨held, before, log_eq⟩ | located
  · rw [← log_eq]
    exact anchored held before
  · constructor
    · exact fun otherLocated => sound.eq_of_locate located otherLocated
    · rintro rfl
      exact located

end Consumer

end TopicReplay
