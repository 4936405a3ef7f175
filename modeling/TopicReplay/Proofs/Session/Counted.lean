import TopicReplay.Proofs.Session.Begin

/-!
# What is counted

A consumer delivers events of its own partition only. The statistics count every event
that was sent, and the summary of a session that has ended repeats the statistics.
-/

namespace TopicReplay

open Broker (Client OrderedClient)
open Relation (ReflTransGen)
open Store (OffsetStore)

namespace Stats

theorem counters_record_self (stats : Stats) (now : Nat) (place : TopicPartition) (offset : Int) :
    (stats.record now place offset).counters place = (stats.counters place).count offset := by
  simp [counters, counters?, record]

theorem counters_record_of_ne (stats : Stats) (now : Nat) {place other : TopicPartition}
    (offset : Int) (apart : other ≠ place) :
    (stats.record now place offset).counters other = stats.counters other := by
  simp only [counters, counters?, record]
  rw [OrderedMap.get?_update_of_ne _ _ apart]

end Stats

namespace Consumer

variable {β σ ρ : Type} [Client β σ] [OffsetStore ρ] {around : Surroundings β ρ}
  {consumer : Consumer σ} {outcome : Outcome β σ}

/-- Whether what a consumer is about to deliver is of its own partition. -/
def Owns (consumer : Consumer σ) : Prop :=
  ∀ bounds stream event isLast, consumer.phase = .sending bounds stream event isLast →
    event.place = consumer.place

theorem Move.owns (move : Move around consumer outcome) : outcome.consumer.Owns := by
  intro bounds stream event isLast phase
  cases move with
  | took untold reading polled onward =>
      cases phase
      rfl
  | _ => cases phase

theorem Move.place_of_mem_events (move : Move around consumer outcome) (owns : consumer.Owns)
    {event : Event} (member : event ∈ outcome.emission.events) : event.place = consumer.place := by
  cases move with
  | delivered untold phase heard room =>
      rw [List.mem_singleton.mp member]
      exact owns _ _ _ _ phase
  | stopped untold phase heard room =>
      rw [List.mem_singleton.mp member]
      exact owns _ _ _ _ phase
  | _ => cases member

end Consumer

namespace Crew

variable {σ : Type}

/-- What is counted of a partition when a consumer gives something off. -/
theorem consumed_absorb (crew : Crew σ) (now : Nat) {place : TopicPartition}
    {emission : Consumer.Emission} (owned : ∀ event ∈ emission.events, event.place = place)
    (other : TopicPartition) :
    ((crew.absorb now place emission).stats.counters other).consumed =
      (crew.stats.counters other).consumed + (eventsOf other emission.events).length := by
  cases emission with
  | none => rfl
  | report e => rfl
  | delivery event =>
      have here : event.place = place := owned event List.mem_cons_self
      subst here
      by_cases same : other = event.place
      · subst same
        simp only [absorb, Stats.counters_record_self, Stats.counters_record_self, Counters.count,
          Consumer.events_delivery, eventsOf_singleton_self]
        rfl
      · simp only [absorb, Consumer.events_delivery]
        rw [Stats.counters_record_of_ne _ _ _ same, eventsOf_singleton_of_ne (Ne.symm same)]
        rfl

end Crew

namespace Scene

variable {β σ ρ : Type} [Client β σ] [OffsetStore ρ] {others : β → β → Prop}
  {scene after : Scene β σ ρ}

/-! ## Partitions -/

theorem places_work {index : Nat} {consumer : Consumer σ} {outcome : Consumer.Outcome β σ}
    (works : scene.Works index consumer outcome) :
    (scene.work index consumer outcome).places = scene.places := by
  simp only [places, consumers_work, List.map_set, works.moves.place_eq]
  apply List.ext_getElem?
  intro i
  rw [List.getElem?_set]
  split
  · rename_i same
    subst same
    have inside := (List.getElem?_eq_some_iff.mp works.found).choose
    rw [List.getElem?_map, works.found, if_pos (by simpa using inside)]
    rfl
  · rfl

omit [Client β σ] [OffsetStore ρ] in
theorem Kept.places_eq (kept : scene.Kept after) : after.places = scene.places := by
  rcases kept.consumers with same | ⟨retired, -⟩
  · rw [places, same, places]
  · simp [places, retired]

/-- The partitions that are read are settled from the start. -/
theorem Step.places_eq (step : Step others scene after) : after.places = scene.places := by
  rcases step.work_or_kept with ⟨index, consumer, outcome, works, rfl⟩ | kept
  · exact places_work works
  · exact kept.places_eq

theorem places_eq_of_reaches (runs : ReflTransGen (Step others) scene after) :
    after.places = scene.places := by
  induction runs with
  | refl => rfl
  | tail _ step ih => exact step.places_eq.trans ih

/-- Whether events are of the partitions of those who deliver them. -/
structure Owned (scene : Scene β σ ρ) : Prop where
  owns : ∀ consumer ∈ scene.session.crew.consumers, consumer.Owns
  sent : ∀ event ∈ scene.sent, event.place ∈ scene.places

omit [Client β σ] [OffsetStore ρ] in
theorem Fresh.owned {settings : Settings} (fresh : scene.Fresh settings) : scene.Owned where
  owns consumer member _ _ _ _ phase := by
    rw [(fresh.consumers consumer member).2] at phase
    cases phase
  sent event member := by simp [fresh.sent] at member

theorem Owned.work (owned : scene.Owned) {index : Nat} {consumer : Consumer σ}
    {outcome : Consumer.Outcome β σ} (works : scene.Works index consumer outcome) :
    (scene.work index consumer outcome).Owned where
  owns other member := by
    rcases List.mem_or_eq_of_mem_set (by simpa [Scene.work] using member) with old | rfl
    · exact owned.owns other old
    · exact works.moves.owns
  sent event member := by
    rw [places_work works]
    rcases List.mem_append.mp member with old | new
    · exact owned.sent event old
    · have crew := List.mem_of_getElem? works.found
      rw [works.moves.place_of_mem_events (owned.owns consumer crew) new]
      exact List.mem_map_of_mem crew

omit [Client β σ] [OffsetStore ρ] in
theorem Owned.kept (owned : scene.Owned) (kept : scene.Kept after) : after.Owned where
  owns consumer member := by
    rcases kept.mem_or_aborted member with old | ⟨⟨old, -, rfl⟩, -⟩
    · exact owned.owns consumer old
    · intro bounds stream event isLast phase
      cases phase
  sent := by
    rw [kept.sent, kept.places_eq]
    exact owned.sent

theorem Owned.step (owned : scene.Owned) (step : Step others scene after) : after.Owned := by
  rcases step.work_or_kept with ⟨index, consumer, outcome, works, rfl⟩ | kept
  · exact owned.work works
  · exact owned.kept kept

/-! ## Statistics -/

/-- Whether everything that was sent is counted. -/
structure Counted (scene : Scene β σ ρ) : Prop where
  owned : scene.Owned
  total : scene.session.crew.stats.total = scene.sent.length
  consumed : ∀ place, (scene.session.crew.stats.counters place).consumed =
    (eventsOf place scene.sent).length

omit [Client β σ] [OffsetStore ρ] in
theorem Fresh.counted {settings : Settings} (fresh : scene.Fresh settings) : scene.Counted where
  owned := fresh.owned
  total := by rw [fresh.total, fresh.sent]; rfl
  consumed place := by rw [fresh.counters, fresh.sent]; rfl

theorem Counted.step (counted : scene.Counted) (step : Step others scene after) :
    after.Counted := by
  have owned := counted.owned.step step
  rcases step.work_or_kept with ⟨index, consumer, outcome, works, rfl⟩ | kept
  · constructor
    · exact owned
    · simp [Scene.work, counted.total]
    · intro place
      have owns := counted.owned.owns consumer (List.mem_of_getElem? works.found)
      have absorbed := Crew.consumed_absorb
        (scene.session.crew.replace index outcome.consumer) scene.now
        (fun event member => works.moves.place_of_mem_events owns member) place
      simp only [Scene.work, eventsOf_append, List.length_append]
      rw [absorbed, Crew.stats_replace, counted.consumed]
  · constructor
    · exact owned
    · rw [kept.stats, kept.sent, counted.total]
    · intro place
      rw [kept.stats, kept.sent, counted.consumed]

theorem Counted.run (counted : scene.Counted) (runs : ReflTransGen (Step others) scene after) :
    after.Counted := by
  induction runs with
  | refl => exact counted
  | tail _ step ih => exact ih.step step

end Scene

end TopicReplay
