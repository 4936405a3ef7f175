import TopicReplay.Proofs.Broker.Ordered
import TopicReplay.Proofs.Consumer.Move

/-!
# Consumers in order

A consumer delivers in the order of the offsets, by what it holds: its stream is beyond all
that it has sent, and an event that waits to be delivered lies between the two.
-/

namespace TopicReplay

open Broker (Client OrderedClient)
open Store (OffsetStore)

namespace Consumer

variable {β σ ρ : Type} [Client β σ] [OffsetStore ρ] [OrderedClient β σ]
  {around : Surroundings β ρ} {consumer : Consumer σ} {outcome : Outcome β σ} {sent : List Event}

/-- A step keeps a broker sound. -/
theorem Move.sound (move : Move around consumer outcome)
    (sound : OrderedClient.Sound around.client) : OrderedClient.Sound outcome.client :=
  move.of_client (OrderedClient.sound_attach sound) (fun _ => OrderedClient.sound_poll sound)
    (fun _ => OrderedClient.sound_release _) sound

/-- Whether a consumer has yet to deliver what lies behind the events that it has sent. -/
def Ahead (β : Type) [Client β σ] [OrderedClient β σ] (sent : List Event)
    (consumer : Consumer σ) : Prop :=
  match consumer.phase with
  | .resolving | .attaching _ => sent = []
  | .reading _ stream | .resting _ stream _ =>
      ∀ event ∈ sent, event.offset < OrderedClient.position β stream
  | .sending _ stream next _ =>
      (∀ event ∈ sent, event.offset < next.offset) ∧
        next.offset < OrderedClient.position β stream
  | .ended _ => True

/-- A step keeps a consumer ahead of what it has sent. -/
theorem Move.ahead (move : Move around consumer outcome)
    (sound : OrderedClient.Sound around.client) (ahead : consumer.Ahead β sent) :
    outcome.consumer.Ahead β (sent ++ outcome.emission.events) := by
  unfold Ahead at ahead
  cases move with
  | resolved untold phase resolves open_ =>
      rw [phase] at ahead
      simpa [Ahead] using ahead
  | attached untold phase attaches =>
      rw [phase] at ahead
      simp only at ahead
      simp [Ahead, ahead]
  | rested untold phase polled passing =>
      rw [phase] at ahead
      have le := OrderedClient.position_le_poll sound polled
      simpa [Ahead] using fun event member => Int.lt_of_lt_of_le (ahead event member) le
  | skipped untold phase polled before =>
      rw [phase] at ahead
      have le := OrderedClient.position_le_poll sound polled
      simpa [Ahead] using fun event member => Int.lt_of_lt_of_le (ahead event member) le
  | took untold phase polled onward =>
      rw [phase] at ahead
      obtain ⟨above, below⟩ := OrderedClient.offset_poll sound polled
      simpa [Ahead] using
        ⟨fun event member => Int.lt_of_lt_of_le (ahead event member) above, below⟩
  | woke untold phase due =>
      rw [phase] at ahead
      simpa [Ahead] using ahead
  | delivered untold phase heard room =>
      rw [phase] at ahead
      rcases ahead with ⟨above, below⟩
      simp only [Ahead, phase_enter, events_delivery]
      intro event member
      rcases List.mem_append.mp member with old | new
      · exact Int.lt_trans (above event old) below
      · rw [List.mem_singleton.mp new]
        exact below
  | _ => trivial

/-- What a step delivers is behind all that the consumer has sent. -/
theorem Move.ascending (move : Move around consumer outcome) (ahead : consumer.Ahead β sent)
    (ascending : (sent.map (·.offset)).Pairwise (· < ·)) :
    ((sent ++ outcome.emission.events).map (·.offset)).Pairwise (· < ·) := by
  have append {event : Event} (above : ∀ older ∈ sent, older.offset < event.offset) :
      ((sent ++ [event]).map (·.offset)).Pairwise (· < ·) := by
    rw [List.map_append]
    refine List.pairwise_append.mpr ⟨ascending, List.pairwise_singleton _ _, ?_⟩
    intro older olderMember last lastMember
    rcases List.mem_map.mp olderMember with ⟨olderEvent, member, rfl⟩
    rw [List.mem_singleton.mp lastMember]
    exact above olderEvent member
  unfold Ahead at ahead
  cases move with
  | delivered untold phase heard room =>
      rw [phase] at ahead
      exact append ahead.1
  | stopped untold phase heard room =>
      rw [phase] at ahead
      exact append ahead.1
  | _ => simpa using ascending

end Consumer

end TopicReplay
