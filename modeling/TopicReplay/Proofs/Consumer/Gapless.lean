import Mathlib.Data.List.Chain
import TopicReplay.Proofs.Consumer.Fate
import TopicReplay.Proofs.Consumer.Logs

/-!
# Consumers without gaps

A consumer passes over no message that is still there: between two events that it delivers
one after the other lies nothing but what was dropped from the log. Its stream is right
behind the last event that it has taken.
-/

namespace TopicReplay

open Broker (Client Cursor LogBroker)
open Store (OffsetStore)

/-- Whether an offset comes right behind another one, but for those below the lowest one. -/
def Adjacent (low first second : Int) : Prop := second ≤ first + 1 ∨ second ≤ low

theorem Adjacent.mono {low lower first second : Int} (le : lower ≤ low)
    (adjacent : Adjacent lower first second) : Adjacent low first second :=
  adjacent.imp id fun below => Int.le_trans below le

/-- Between two offsets of a list without gaps, all that are not below the lowest one are
in the list. -/
theorem mem_of_isChain_adjacent {low first last offset : Int} {offsets : List Int}
    (chain : offsets.IsChain (Adjacent low)) (head : offsets.head? = some first)
    (tail : offsets.getLast? = some last) (above : first ≤ offset) (below : offset ≤ last)
    (there : low ≤ offset) : offset ∈ offsets := by
  induction offsets generalizing first with
  | nil => cases head
  | cons a rest ih =>
      cases head
      by_cases here : offset = a
      · rw [here]
        exact List.mem_cons_self
      cases rest with
      | nil =>
          rw [List.getLast?_singleton, Option.some.injEq] at tail
          omega
      | cons b rest =>
          rw [List.isChain_cons_cons] at chain
          have next : b ≤ offset := by
            rcases chain.1 with close | dropped
            · omega
            · omega
          exact List.mem_cons_of_mem _ (ih chain.2 rfl (by simpa using tail) next)

namespace Consumer

variable {ρ : Type} [OffsetStore ρ] {around : Surroundings LogBroker ρ} {consumer : Consumer Cursor}
  {outcome : Outcome LogBroker Cursor} {sent : List Event} {low : Int}

/-- Whether a consumer is right behind what it has sent, but for what lies below the lowest
offset. -/
def Behind (low : Int) (sent : List Event) (consumer : Consumer Cursor) : Prop :=
  match consumer.phase with
  | .resolving | .attaching _ => sent = []
  | .reading bounds cursor | .resting bounds cursor _ =>
      ∀ last, sent.getLast? = some last →
        cursor.next = last.offset + 1 ∧ bounds.start ≤ last.offset
  | .sending bounds cursor event _ =>
      cursor.next = event.offset + 1 ∧ bounds.start ≤ event.offset ∧
        ∀ last, sent.getLast? = some last → Adjacent low last.offset event.offset
  | .ended _ => True

theorem Behind.mono {lower : Int} (le : lower ≤ low) (behind : consumer.Behind lower sent) :
    consumer.Behind low sent := by
  unfold Behind at behind ⊢
  cases phase : consumer.phase with
  | sending bounds cursor event isLast =>
      rw [phase] at behind
      rcases behind with ⟨next, onward, adjacent⟩
      exact ⟨next, onward, fun last found => (adjacent last found).mono le⟩
  | _ =>
      rw [phase] at behind
      exact behind

/-- What a step finds in a log is the next message that is still there. -/
theorem offset_eq_of_poll {broker after : LogBroker} {cursor next : Cursor} {m : Message}
    (sound : broker.Sound) (polled : Client.poll broker cursor = (.message m, next, after)) :
    m.offset = max cursor.next (broker.log cursor.log).low := by
  have given := (Broker.LogBroker.of_poll polled).1
  have found := (Broker.PartitionLog.read_eq_message_iff.mp given).2
  exact ((sound.dense _).of_messageAt? found).1

/-- A step keeps a consumer right behind what it has sent. -/
theorem Move.behind (move : Move around consumer outcome) (sound : around.client.Sound)
    (lows : ∀ cursor, consumer.phase.stream? = some cursor →
      (around.client.log cursor.log).low ≤ low)
    (behind : consumer.Behind low sent) :
    outcome.consumer.Behind low (sent ++ outcome.emission.events) := by
  unfold Behind at behind
  cases move with
  | resolved untold phase resolves open_ =>
      rw [phase] at behind
      simpa [Behind] using behind
  | attached untold phase attaches =>
      rw [phase] at behind
      simp only at behind
      simp [Behind, behind]
  | rested untold phase polled passing =>
      rw [phase] at behind
      obtain ⟨rfl, -⟩ := log_of_fault polled
      simpa [Behind] using behind
  | skipped untold phase polled before =>
      rw [phase] at behind
      have offset_eq := offset_eq_of_poll sound polled
      simp only [Behind, phase_enter, events_none, List.append_nil]
      intro last found
      obtain ⟨next, onward⟩ := behind last found
      omega
  | took untold phase polled onward =>
      rw [phase] at behind lows
      have offset_eq := offset_eq_of_poll sound polled
      obtain ⟨rfl, -⟩ := log_of_message sound polled
      have low_le := lows _ rfl
      simp only [Behind, phase_enter, events_none, List.append_nil]
      refine ⟨rfl, onward, fun last found => ?_⟩
      have next := (behind last found).1
      simp only [Adjacent, Message.toEvent]
      omega
  | woke untold phase due =>
      rw [phase] at behind
      simpa [Behind] using behind
  | delivered untold phase heard room =>
      rw [phase] at behind
      simp only [Behind, phase_enter, events_delivery, List.getLast?_concat]
      intro last found
      cases found
      exact ⟨behind.1, behind.2.1⟩
  | _ => trivial

/-- What a step delivers leaves no gap. -/
theorem Move.isChain (move : Move around consumer outcome) (behind : consumer.Behind low sent)
    (chain : (sent.map (·.offset)).IsChain (Adjacent low)) :
    ((sent ++ outcome.emission.events).map (·.offset)).IsChain (Adjacent low) := by
  have append {event : Event}
      (adjacent : ∀ last, sent.getLast? = some last → Adjacent low last.offset event.offset) :
      ((sent ++ [event]).map (·.offset)).IsChain (Adjacent low) := by
    rw [List.map_append]
    apply chain.append (.singleton _)
    intro offset found other head
    cases head
    rw [List.getLast?_map] at found
    rcases Option.map_eq_some_iff.mp found with ⟨last, lastFound, rfl⟩
    exact adjacent last lastFound
  unfold Behind at behind
  cases move with
  | delivered untold phase heard room =>
      rw [phase] at behind
      exact append behind.2.2
  | stopped untold phase heard room =>
      rw [phase] at behind
      exact append behind.2.2
  | _ => simpa using chain

end Consumer

end TopicReplay
