import Mathlib.Data.List.Nodup
import TopicReplay.Proofs.Consumer.Ahead
import TopicReplay.Proofs.Session.Counted

/-!
# Delivery in order

The events of one partition are sent in the order of their offsets, and none of them twice,
since every partition has one consumer and each consumer delivers in order.
-/

namespace TopicReplay

open Broker (Client OrderedClient)
open Relation (ReflTransGen)
open Store (OffsetStore)

namespace Scene

variable {β σ ρ : Type} [Client β σ] [OffsetStore ρ] {others : β → β → Prop}
  {scene after : Scene β σ ρ}

omit [Client β σ] [OffsetStore ρ] in
/-- A partition has one consumer. -/
theorem eq_of_place_eq (nodup : scene.places.Nodup) {consumer other : Consumer σ}
    (member : consumer ∈ scene.session.crew.consumers)
    (otherMember : other ∈ scene.session.crew.consumers) (same : consumer.place = other.place) :
    consumer = other :=
  List.inj_on_of_nodup_map nodup member otherMember same

/-- A consumer that has made a step is in its place, and so are all the others. -/
theorem Works.mem_work_iff {index : Nat} {consumer other : Consumer σ}
    {outcome : Consumer.Outcome β σ} (nodup : scene.places.Nodup)
    (works : scene.Works index consumer outcome) :
    other ∈ (scene.work index consumer outcome).session.crew.consumers ↔
      other = outcome.consumer ∨
        other ∈ scene.session.crew.consumers ∧ other.place ≠ consumer.place := by
  have put : outcome.consumer ∈ (scene.work index consumer outcome).session.crew.consumers :=
    List.mem_of_getElem? works.getElem?_work
  constructor
  · intro member
    by_cases same : other.place = consumer.place
    · refine .inl (eq_of_place_eq ?_ member put (same.trans works.moves.place_eq.symm))
      rwa [places_work works]
    · rw [consumers_work] at member
      rcases List.mem_or_eq_of_mem_set member with old | new
      · exact .inr ⟨old, same⟩
      · exact .inl new
  · rintro (rfl | ⟨member, apart⟩)
    · exact put
    · rw [consumers_work]
      obtain ⟨i, found⟩ := List.getElem?_of_mem member
      apply List.mem_of_getElem? (i := i)
      rw [List.getElem?_set_ne, found]
      rintro rfl
      rw [works.found] at found
      exact apart (congrArg (·.place) (Option.some.inj found)).symm

variable [OrderedClient β σ]

/-- Whether the events of every partition are sent in the order of their offsets. -/
structure Ordered (scene : Scene β σ ρ) : Prop where
  sound : OrderedClient.Sound scene.client
  owned : scene.Owned
  nodup : scene.places.Nodup
  ahead : ∀ consumer ∈ scene.session.crew.consumers,
    consumer.Ahead β (eventsOf consumer.place scene.sent)
  ascending : ∀ place, ((eventsOf place scene.sent).map (·.offset)).Pairwise (· < ·)

omit [OffsetStore ρ] in
theorem Fresh.ordered {settings : Settings} (fresh : scene.Fresh settings)
    (sound : OrderedClient.Sound scene.client) : scene.Ordered where
  sound := sound
  owned := fresh.owned
  nodup := fresh.nodup
  ahead consumer member := by
    rw [Consumer.Ahead, (fresh.consumers consumer member).2, fresh.sent]
    rfl
  ascending place := by simp [fresh.sent]

/-- What a consumer delivers is of its own partition. -/
theorem Ordered.eventsOf_self (ordered : scene.Ordered) {index : Nat} {consumer : Consumer σ}
    {outcome : Consumer.Outcome β σ} (works : scene.Works index consumer outcome) :
    eventsOf consumer.place outcome.emission.events = outcome.emission.events := by
  have owns := ordered.owned.owns consumer (List.mem_of_getElem? works.found)
  apply List.filter_eq_self.mpr
  intro event member
  simpa using works.moves.place_of_mem_events owns member

theorem Ordered.eventsOf_of_ne (ordered : scene.Ordered) {index : Nat} {consumer : Consumer σ}
    {outcome : Consumer.Outcome β σ} (works : scene.Works index consumer outcome)
    {place : TopicPartition} (apart : consumer.place ≠ place) :
    eventsOf place outcome.emission.events = [] := by
  have owns := ordered.owned.owns consumer (List.mem_of_getElem? works.found)
  apply eventsOf_eq_nil_iff.mpr
  intro event member
  rwa [works.moves.place_of_mem_events owns member]

/-- A step of one consumer adds to what is sent of its own partition only. -/
theorem Ordered.eventsOf_work_self (ordered : scene.Ordered) {index : Nat}
    {consumer : Consumer σ} {outcome : Consumer.Outcome β σ}
    (works : scene.Works index consumer outcome) :
    eventsOf consumer.place (scene.work index consumer outcome).sent =
      eventsOf consumer.place scene.sent ++ outcome.emission.events := by
  rw [sent_work, eventsOf_append, ordered.eventsOf_self works]

theorem Ordered.eventsOf_work_of_ne (ordered : scene.Ordered) {index : Nat}
    {consumer : Consumer σ} {outcome : Consumer.Outcome β σ}
    (works : scene.Works index consumer outcome) {place : TopicPartition}
    (apart : consumer.place ≠ place) :
    eventsOf place (scene.work index consumer outcome).sent = eventsOf place scene.sent := by
  rw [sent_work, eventsOf_append, ordered.eventsOf_of_ne works apart, List.append_nil]

/-- The consumers of other partitions are the ones that there were. -/
theorem Ordered.mem_of_mem_work (ordered : scene.Ordered) {index : Nat}
    {consumer other : Consumer σ} {outcome : Consumer.Outcome β σ}
    (works : scene.Works index consumer outcome)
    (member : other ∈ (scene.work index consumer outcome).session.crew.consumers)
    (apart : consumer.place ≠ other.place) : other ∈ scene.session.crew.consumers := by
  rcases (works.mem_work_iff ordered.nodup).mp member with rfl | ⟨old, -⟩
  · exact absurd works.moves.place_eq.symm apart
  · exact old

theorem Ordered.work (ordered : scene.Ordered) {index : Nat} {consumer : Consumer σ}
    {outcome : Consumer.Outcome β σ} (works : scene.Works index consumer outcome) :
    (scene.work index consumer outcome).Ordered := by
  have ahead := ordered.ahead consumer (List.mem_of_getElem? works.found)
  constructor
  · exact works.moves.sound ordered.sound
  · exact ordered.owned.work works
  · rw [places_work works]
    exact ordered.nodup
  · intro other member
    rcases (works.mem_work_iff ordered.nodup).mp member with rfl | ⟨old, apart⟩
    · rw [works.moves.place_eq, ordered.eventsOf_work_self works]
      exact works.moves.ahead ordered.sound ahead
    · rw [ordered.eventsOf_work_of_ne works (Ne.symm apart)]
      exact ordered.ahead other old
  · intro place
    by_cases here : consumer.place = place
    · subst here
      rw [ordered.eventsOf_work_self works]
      exact works.moves.ascending ahead (ordered.ascending _)
    · rw [ordered.eventsOf_work_of_ne works here]
      exact ordered.ascending place

omit [OffsetStore ρ] in
theorem Ordered.kept (ordered : scene.Ordered) (kept : scene.Kept after)
    (sound : OrderedClient.Sound after.client) : after.Ordered where
  sound := sound
  owned := ordered.owned.kept kept
  nodup := by
    rw [kept.places_eq]
    exact ordered.nodup
  ahead consumer member := by
    rw [kept.sent]
    rcases kept.mem_or_aborted member with old | ⟨⟨old, -, rfl⟩, -⟩
    · exact ordered.ahead consumer old
    · trivial
  ascending := by
    rw [kept.sent]
    exact ordered.ascending

/-- Steps keep a broker sound when others do. -/
theorem Step.sound (step : Step others scene after)
    (keeps : ∀ {client after}, others client after → OrderedClient.Sound client →
      OrderedClient.Sound after)
    (sound : OrderedClient.Sound scene.client) : OrderedClient.Sound after.client := by
  cases step with
  | turn turn =>
      cases turn with
      | work worked =>
          rcases workAt?_eq_some_iff.mp worked with ⟨consumer, outcome, works, rfl⟩
          exact works.moves.sound sound
      | supervise supervised =>
          exact supervised.of_client (fun _ _ => OrderedClient.sound_release _) sound
      | pass later => exact sound
      | cancel => exact sound
      | change changed => exact keeps changed sound
  | receive receives =>
      rcases receive?_eq_some_iff.mp receives with ⟨event, rest, -, rfl⟩
      exact sound
  | hangUp => exact sound
  | commit stamp member =>
      rw [client_commit]
      exact sound

theorem Ordered.step (ordered : scene.Ordered)
    (keeps : ∀ {client after}, others client after → OrderedClient.Sound client →
      OrderedClient.Sound after)
    (step : Step others scene after) : after.Ordered := by
  have sound := step.sound keeps ordered.sound
  rcases step.work_or_kept with ⟨index, consumer, outcome, works, rfl⟩ | kept
  · exact ordered.work works
  · exact ordered.kept kept sound

theorem Ordered.run (ordered : scene.Ordered)
    (keeps : ∀ {client after}, others client after → OrderedClient.Sound client →
      OrderedClient.Sound after)
    (runs : ReflTransGen (Step others) scene after) : after.Ordered := by
  induction runs with
  | refl => exact ordered
  | tail _ step ih => exact ih.step keeps step

omit [OffsetStore ρ] in
/-- What is received first has the smaller offset. -/
theorem Ordered.lt_of_prefix (ordered : scene.Ordered) {earlier : List Event} {older event : Event}
    (heard : earlier ++ [event] <+: scene.sent) (member : older ∈ earlier)
    (same : older.place = event.place) : older.offset < event.offset := by
  have below := (ordered.ascending event.place).sublist
    ((heard.sublist.filter _).map fun event => event.offset)
  rw [List.filter_append, List.map_append] at below
  apply (List.pairwise_append.mp below).2.2
  · apply List.mem_map_of_mem
    simpa using ⟨member, same⟩
  · apply List.mem_map_of_mem
    simp

omit [OffsetStore ρ] in
/-- Nothing is sent twice. -/
theorem Ordered.nodup_sent (ordered : scene.Ordered) : scene.sent.Nodup := by
  rw [List.nodup_iff_count_le_one]
  intro event
  have once : (eventsOf event.place scene.sent).Nodup := by
    apply List.Pairwise.of_map (·.offset) _ (ordered.ascending event.place)
    intro first second apart same
    rw [same] at apart
    exact Int.lt_irrefl _ apart
  have count_eq : (eventsOf event.place scene.sent).count event = scene.sent.count event :=
    List.count_filter (by simp)
  rw [← count_eq]
  exact List.nodup_iff_count_le_one.mp once event

end Scene

end TopicReplay
