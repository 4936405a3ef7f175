import TopicReplay.Proofs.Consumer.Gapless
import TopicReplay.Proofs.Session.InOrder

/-!
# Sessions without gaps

As long as a partition is where it was, its consumer reads the one log, and nothing that is
still there is missing between the events that are sent of it. Others may append to the log
and drop from it meanwhile.
-/

namespace TopicReplay

open Broker (Client Cursor LogBroker)
open Relation (ReflTransGen)
open Store (OffsetStore)

namespace Scene

variable {ρ : Type} [OffsetStore ρ] {others : LogBroker → LogBroker → Prop}
  {scene after : Scene LogBroker Cursor ρ} {place : TopicPartition} {n : Nat}

/-- A step takes nothing back from a broker when others do not. -/
theorem Step.follows (step : Step others scene after)
    (onward : ∀ {broker after}, others broker after → broker.Follows after) :
    scene.client.Follows after.client := by
  cases step with
  | turn turn =>
      cases turn with
      | work worked =>
          rcases workAt?_eq_some_iff.mp worked with ⟨consumer, outcome, works, rfl⟩
          exact works.moves.follows
      | supervise supervised =>
          exact supervised.of_client (fun client cursor follows =>
            follows.trans (LogBroker.follows_release client cursor)) (.refl _)
      | pass later => exact .refl _
      | cancel => exact .refl _
      | change changed => exact onward changed
  | receive receives =>
      rcases receive?_eq_some_iff.mp receives with ⟨event, rest, -, rfl⟩
      exact .refl _
  | hangUp => exact .refl _
  | commit stamp member =>
      rw [client_commit]
      exact .refl _

theorem follows_of_reaches (runs : ReflTransGen (Step others) scene after)
    (onward : ∀ {broker after}, others broker after → broker.Follows after) :
    scene.client.Follows after.client := by
  induction runs with
  | refl => exact .refl _
  | tail _ step ih => exact ih.trans (step.follows onward)

/-- Whether nothing that is still there is missing between the events that were sent of a
partition, whose log is the `n`-th one. -/
structure Gapless (place : TopicPartition) (n : Nat) (scene : Scene LogBroker Cursor ρ) :
    Prop where
  streams : ∀ consumer ∈ scene.session.crew.consumers, consumer.place = place →
    ∀ cursor, consumer.phase.stream? = some cursor → cursor.log = n
  behind : ∀ consumer ∈ scene.session.crew.consumers, consumer.place = place →
    consumer.Behind (scene.client.log n).low (eventsOf place scene.sent)
  chain : ((eventsOf place scene.sent).map (·.offset)).IsChain
    (Adjacent (scene.client.log n).low)

omit [OffsetStore ρ] in
theorem Fresh.gapless {settings : Settings} (fresh : scene.Fresh settings)
    (place : TopicPartition) (n : Nat) : scene.Gapless place n where
  streams consumer member _ cursor found := by
    rw [(fresh.consumers consumer member).2] at found
    cases found
  behind consumer member _ := by
    rw [Consumer.Behind, (fresh.consumers consumer member).2, fresh.sent]
    rfl
  chain := by
    rw [fresh.sent]
    exact .nil

omit [OffsetStore ρ] in
/-- What a step does to the log of a partition opens no gap. -/
theorem Gapless.of_low_le {low : Int} (le : (scene.client.log n).low ≤ low)
    (gapless : scene.Gapless place n) :
    (∀ consumer ∈ scene.session.crew.consumers, consumer.place = place →
      consumer.Behind low (eventsOf place scene.sent)) ∧
    ((eventsOf place scene.sent).map (·.offset)).IsChain (Adjacent low) :=
  ⟨fun consumer member here => (gapless.behind consumer member here).mono le,
    gapless.chain.imp fun _ _ adjacent => adjacent.mono le⟩

theorem Gapless.work (gapless : scene.Gapless place n) (ordered : scene.Ordered)
    (located : scene.client.locate place = .ok n)
    {index : Nat} {consumer : Consumer Cursor} {outcome : Consumer.Outcome LogBroker Cursor}
    (works : scene.Works index consumer outcome) :
    (scene.work index consumer outcome).Gapless place n := by
  have inside : n < scene.client.logs.length := ordered.sound.lt_of_locate located
  have low_le : (scene.client.log n).low ≤ (outcome.client.log n).low :=
    works.moves.follows.low_le n inside
  obtain ⟨behind, chain⟩ := gapless.of_low_le low_le
  have member := List.mem_of_getElem? works.found
  by_cases here : consumer.place = place
  · subst here
    have streams := gapless.streams consumer member rfl
    have sent_eq := ordered.eventsOf_work_self works
    have lows (cursor : Cursor) (found : consumer.phase.stream? = some cursor) :
        (scene.client.log cursor.log).low ≤ (outcome.client.log n).low := by
      rw [streams cursor found]
      exact low_le
    constructor
    · intro other otherMember same cursor found
      rcases (works.mem_work_iff ordered.nodup).mp otherMember with rfl | ⟨-, apart⟩
      · rcases works.moves.log_eq found with ⟨held, before, log_eq⟩ | opened
        · exact log_eq.symm.trans (streams held before)
        · exact Except.ok.inj (opened.symm.trans located)
      · exact absurd same apart
    · intro other otherMember same
      rcases (works.mem_work_iff ordered.nodup).mp otherMember with rfl | ⟨-, apart⟩
      · rw [sent_eq]
        exact works.moves.behind ordered.sound lows (behind consumer member rfl)
      · exact absurd same apart
    · rw [sent_eq]
      exact works.moves.isChain (behind consumer member rfl) chain
  · have sent_eq := ordered.eventsOf_work_of_ne works here
    have old {other : Consumer Cursor}
        (otherMember : other ∈ (scene.work index consumer outcome).session.crew.consumers)
        (same : other.place = place) : other ∈ scene.session.crew.consumers :=
      ordered.mem_of_mem_work works otherMember (same ▸ here)
    constructor
    · intro other otherMember same
      exact gapless.streams other (old otherMember same) same
    · intro other otherMember same
      rw [sent_eq]
      exact behind other (old otherMember same) same
    · rw [sent_eq]
      exact chain

omit [OffsetStore ρ] in
theorem Gapless.kept (gapless : scene.Gapless place n) (kept : scene.Kept after)
    (low_le : (scene.client.log n).low ≤ (after.client.log n).low) : after.Gapless place n := by
  obtain ⟨behind, chain⟩ := gapless.of_low_le low_le
  constructor
  · intro consumer member here cursor found
    rcases kept.mem_or_aborted member with old | ⟨⟨old, -, rfl⟩, -⟩
    · exact gapless.streams consumer old here cursor found
    · cases found
  · intro consumer member here
    rw [kept.sent]
    rcases kept.mem_or_aborted member with old | ⟨⟨old, -, rfl⟩, -⟩
    · exact behind consumer old here
    · trivial
  · rw [kept.sent]
    exact chain

theorem Gapless.step (gapless : scene.Gapless place n) (ordered : scene.Ordered)
    (located : scene.client.locate place = .ok n)
    (onward : ∀ {broker after}, others broker after → broker.Follows after)
    (step : Step others scene after) : after.Gapless place n := by
  have inside : n < scene.client.logs.length := ordered.sound.lt_of_locate located
  have low_le := (step.follows onward).low_le n inside
  rcases step.work_or_kept with ⟨index, consumer, outcome, works, rfl⟩ | kept
  · exact gapless.work ordered located works
  · exact gapless.kept kept low_le

/-- A partition that is still where it was has been read without gaps. A topic that was
replaced does not return, so that it has been there all the time. -/
theorem Gapless.run (gapless : scene.Gapless place n) (ordered : scene.Ordered)
    (inside : n < scene.client.logs.length)
    (keeps : ∀ {broker after}, others broker after → broker.Sound → after.Sound)
    (onward : ∀ {broker after}, others broker after → broker.Follows after)
    (runs : ReflTransGen (Step others) scene after) (located : after.client.locate place = .ok n) :
    after.Gapless place n := by
  induction runs with
  | refl => exact gapless
  | @tail between after before step ih =>
      have follows := follows_of_reaches before onward
      have earlier := (step.follows onward).located
        (Nat.lt_of_lt_of_le inside follows.length_le) located
      exact (ih earlier).step (ordered.run keeps before) earlier onward step

end Scene

end TopicReplay
