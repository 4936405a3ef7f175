import Mathlib.Algebra.Ring.Nat
import TopicReplay.Proofs.OrderedMap
import TopicReplay.Proofs.Session.Counted

/-!
# Summaries

A session draws up its summary when all its consumers have ended, and nothing changes
afterwards. The events that it counts are therefore all that were ever sent.
-/

namespace TopicReplay

open Broker (Client)
open Relation (ReflTransGen)
open Store (OffsetStore)

theorem Summary.total_eq_sum (summary : Summary) :
    summary.total = (summary.partitions.toList.map fun entry => entry.2.counters.consumed).sum := by
  simp only [total, OrderedMap.values, OrderedMap.toList, List.sum, List.foldr_map]

section EventsOf

variable {places : List TopicPartition}

/-- One more event is one more event of every entry for its partition. -/
theorem sum_length_eventsOf_cons (places : List TopicPartition) (event : Event)
    (events : List Event) :
    (places.map fun place => (eventsOf place (event :: events)).length).sum =
      places.count event.place + (places.map fun place => (eventsOf place events).length).sum := by
  induction places with
  | nil => rfl
  | cons place rest ih =>
      simp only [List.map_cons, List.sum_cons, ih, List.count_cons]
      by_cases here : event.place = place
      · subst here
        simp [eventsOf]
        omega
      · simp [eventsOf, here, Ne.symm here]
        omega

/-- Events are counted by counting those of each partition. -/
theorem sum_length_eventsOf (nodup : places.Nodup) {events : List Event}
    (covered : ∀ event ∈ events, event.place ∈ places) :
    (places.map fun place => (eventsOf place events).length).sum = events.length := by
  induction events with
  | nil =>
      change (places.map fun _ => 0).sum = 0
      rw [List.map_const', List.sum_replicate_nat, Nat.mul_zero]
  | cons event rest ih =>
      rw [sum_length_eventsOf_cons, ih fun other member => covered other (.tail _ member),
        nodup.count, if_pos (covered event List.mem_cons_self), List.length_cons, Nat.add_comm]

end EventsOf

namespace Session

variable {σ : Type}

/-- A summary counts the partitions of all consumers. -/
theorem total_summarise {session : Session σ} (reason : Reason)
    (nodup : (session.crew.consumers.map (·.place)).Nodup) :
    (session.summarise reason).total =
      ((session.crew.consumers.map (·.place)).map fun place =>
        (session.crew.stats.counters place).consumed).sum := by
  rw [Summary.total_eq_sum, summarise]
  refine ((OrderedMap.perm_toList_ofList ?_).map _).sum_nat.trans ?_
  · simpa [Function.comp_def] using nodup
  · simp [Function.comp_def]

end Session

namespace Scene

variable {β σ ρ : Type} [Client β σ] [OffsetStore ρ] {others : β → β → Prop}
  {scene after : Scene β σ ρ}

/-- Whether a summary, once it is drawn up, is that of a crew that has ended. -/
def Drawn (scene : Scene β σ ρ) : Prop :=
  ∀ summary, scene.session.summary? = some summary →
    scene.session.crew.isOver = true ∧
      summary.partitions = (scene.session.summarise summary.reason).partitions

omit [Client β σ] [OffsetStore ρ] in
theorem Fresh.drawn {settings : Settings} (fresh : scene.Fresh settings) : scene.Drawn := by
  intro summary found
  obtain ⟨none, partitions_eq⟩ := fresh.summary summary found
  constructor
  · rw [Crew.isOver, none]
    rfl
  · rw [partitions_eq, Session.summarise, none]
    rfl

/-- A consumer with a step has not ended. -/
theorem Works.isOver_eq_false {index : Nat} {consumer : Consumer σ}
    {outcome : Consumer.Outcome β σ} (works : scene.Works index consumer outcome) :
    scene.session.crew.isOver = false := by
  rw [Crew.isOver_eq_false_iff]
  exact ⟨consumer, List.mem_of_getElem? works.found, works.moves.going⟩

omit [Client β σ] [OffsetStore ρ] in
/-- A crew that has ended stays so. -/
theorem Kept.isOver (kept : scene.Kept after) (ceased : scene.session.crew.isOver = true) :
    after.session.crew.isOver = true := by
  rcases kept.consumers with same | ⟨retired, -⟩
  · rw [Crew.isOver, same]
    exact ceased
  · rw [Crew.isOver, retired, List.all_map]
    exact List.all_eq_true.mpr fun consumer _ => Crew.ending?_retire consumer

/-- When all consumers have ended, nothing more is sent. -/
theorem Turn.ceased (turn : Turn others scene after) (ceased : scene.session.crew.isOver = true) :
    after.session.crew.isOver = true ∧ after.sent = scene.sent := by
  rcases turn.work_or_kept with ⟨index, consumer, outcome, works, rfl⟩ | kept
  · rw [works.isOver_eq_false] at ceased
    cases ceased
  · exact ⟨kept.isOver ceased, kept.sent⟩

/-- When all consumers have ended and the channel is empty, nothing more is received. -/
theorem Step.dry (step : Step others scene after) (dry : scene.session.crew.isDry = true) :
    after.session.crew.isDry = true ∧ after.received = scene.received := by
  rcases Bool.and_eq_true_iff.mp dry with ⟨ceased, empty⟩
  cases step with
  | turn turn =>
      have still := (turn.ceased ceased).1
      refine ⟨Bool.and_eq_true_iff.mpr ⟨still, ?_⟩, turn.unread.received⟩
      cases turn with
      | work worked =>
          rcases workAt?_eq_some_iff.mp worked with ⟨consumer, outcome, works, -⟩
          rw [works.isOver_eq_false] at ceased
          cases ceased
      | supervise supervised => rwa [supervised.kept.channel]
      | pass later => exact empty
      | cancel => exact empty
      | change changed => exact empty
  | receive receives =>
      rcases receive?_eq_some_iff.mp receives with ⟨event, rest, buffer_eq, -⟩
      rw [buffer_eq] at empty
      cases empty
  | hangUp => exact ⟨Bool.and_eq_true_iff.mpr ⟨ceased, rfl⟩, rfl⟩
  | commit stamp member => exact ⟨by simpa [Crew.isDry, Crew.isOver] using dry, by simp⟩

theorem received_of_dry (runs : Relation.ReflTransGen (Step others) scene after)
    (dry : scene.session.crew.isDry = true) :
    after.session.crew.isDry = true ∧ after.received = scene.received := by
  induction runs with
  | refl => exact ⟨dry, rfl⟩
  | tail _ step ih =>
      obtain ⟨still, received_eq⟩ := step.dry ih.1
      exact ⟨still, received_eq.trans ih.2⟩

omit [Client β σ] [OffsetStore ρ] in
/-- What leaves the crew, its outcomes and the supervisor alone keeps a summary right. -/
theorem Drawn.of_eq (drawn : scene.Drawn)
    (supervisor : after.session.supervisor = scene.session.supervisor)
    (consumers : after.session.crew.consumers = scene.session.crew.consumers)
    (stats : after.session.crew.stats = scene.session.crew.stats)
    (outcomes : after.session.outcomes = scene.session.outcomes) : after.Drawn := by
  intro summary found
  rw [Session.summary?, supervisor] at found
  obtain ⟨ceased, partitions_eq⟩ := drawn summary found
  rw [Crew.isOver, Session.summarise, consumers, stats, outcomes]
  exact ⟨ceased, partitions_eq⟩

theorem Drawn.turn (drawn : scene.Drawn) (turn : Turn others scene after) : after.Drawn := by
  cases turn with
  | work worked =>
      rcases workAt?_eq_some_iff.mp worked with ⟨consumer, outcome, works, rfl⟩
      intro summary found
      have ceased := (drawn summary found).1
      rw [works.isOver_eq_false] at ceased
      cases ceased
  | supervise supervised =>
      intro summary found
      cases supervised with
      | noted undone joined =>
          simp only [Session.summary?, Session.supervisor_of_join? joined] at found undone
          rw [undone] at found
          cases found
      | completed watching settled =>
          cases found
          exact ⟨(Bool.and_eq_true_iff.mp settled).1, rfl⟩
      | told watching why => cases found
      | drained draining settled =>
          cases found
          exact ⟨(Bool.and_eq_true_iff.mp settled).1, rfl⟩
      | gaveUp draining late aborted =>
          cases found
          have ceased := scene.session.crew.isOver_abort scene.client
          rw [aborted] at ceased
          exact ⟨ceased, rfl⟩
  | pass later => exact drawn.of_eq rfl rfl rfl rfl
  | cancel => exact drawn.of_eq rfl rfl rfl rfl
  | change changed => exact drawn.of_eq rfl rfl rfl rfl

theorem Drawn.step (drawn : scene.Drawn) (step : Step others scene after) : after.Drawn := by
  cases step with
  | turn turn => exact drawn.turn turn
  | receive receives =>
      rcases receive?_eq_some_iff.mp receives with ⟨event, rest, -, rfl⟩
      exact drawn.of_eq rfl rfl rfl rfl
  | hangUp => exact drawn.of_eq rfl rfl rfl rfl
  | commit stamp member =>
      apply drawn.of_eq
      · rw [session_commit]; rfl
      · rw [session_commit]; rfl
      · rw [session_commit]; rfl
      · rw [session_commit]; rfl

theorem Drawn.run (drawn : scene.Drawn) (runs : ReflTransGen (Step others) scene after) :
    after.Drawn := by
  induction runs with
  | refl => exact drawn
  | tail _ step ih => exact ih.step step

omit [Client β σ] [OffsetStore ρ] in
/-- A summary counts every event that was sent. -/
theorem Drawn.total_eq_length (drawn : scene.Drawn) (counted : scene.Counted)
    (nodup : scene.places.Nodup) {summary : Summary}
    (found : scene.session.summary? = some summary) : summary.total = scene.sent.length := by
  have total_eq : summary.total = (scene.session.summarise summary.reason).total := by
    rw [Summary.total, (drawn summary found).2, Summary.total]
  rw [total_eq, Session.total_summarise _ nodup]
  simp only [counted.consumed]
  exact sum_length_eventsOf nodup counted.owned.sent

end Scene

end TopicReplay
