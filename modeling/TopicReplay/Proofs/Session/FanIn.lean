import TopicReplay.Proofs.Consumer.Alone
import TopicReplay.Proofs.Consumer.Logs
import TopicReplay.Proofs.Session.Conserved
import TopicReplay.Proofs.Session.Frame
import TopicReplay.Proofs.Session.InOrder
import TopicReplay.Proofs.Session.Summary

/-!
# Fan-in

Consumers share one channel, but none of them sees what the others do. What is sent of a
partition is a beginning of what its consumer delivers when it is alone, whatever the
order of the steps and whatever happens to other partitions, and it is all of it when the
consumer has ended by itself.
-/

namespace TopicReplay

open Broker (Client Cursor LogBroker OrderedClient)
open Consumer (storedOffset?)
open Relation (ReflTransGen)
open Store (OffsetStore LawfulStore Storable)

namespace Scene

variable {ρ : Type} [OffsetStore ρ] {others : LogBroker → LogBroker → Prop}
  {scene after : Scene LogBroker Cursor ρ} {place : TopicPartition} {fate : Fate}

/-- What leaves a partition as it was, and what is stored of it unless it was received. -/
structure Undisturbed (place : TopicPartition) (scene after : Scene LogBroker Cursor ρ) :
    Prop where
  kept : scene.Kept after
  same : scene.client.Same place after.client
  stored : (∀ event ∈ scene.received, event.place ≠ place) → ∀ environment,
    storedOffset? after.store environment place = storedOffset? scene.store environment place

theorem Step.work_or_undisturbed [LawfulStore ρ] (step : Step others scene after)
    (fitting : scene.Fitting)
    (fits : ∀ event ∈ after.committed, Storable event.place.partition (event.offset + 1))
    (untouched : ∀ {broker after}, others broker after → broker.Same place after) :
    (∃ index consumer outcome, scene.Works index consumer outcome ∧
      scene.work index consumer outcome = after) ∨ scene.Undisturbed place after := by
  rcases step.work_or_kept with worked | kept
  · exact .inl worked
  cases step with
  | turn turn =>
      cases turn with
      | work worked => exact .inl ⟨_, workAt?_eq_some_iff.mp worked⟩
      | supervise supervised =>
          refine .inr ⟨kept, ?_, fun _ _ => rfl⟩
          exact supervised.of_client (fun client cursor same =>
            same.trans (LogBroker.same_release place client cursor)) (.refl place scene.client)
      | pass later => exact .inr ⟨kept, .refl place _, fun _ _ => rfl⟩
      | cancel => exact .inr ⟨kept, .refl place _, fun _ _ => rfl⟩
      | change changed => exact .inr ⟨kept, untouched changed, fun _ _ => rfl⟩
  | receive receives =>
      rcases receive?_eq_some_iff.mp receives with ⟨event, rest, -, rfl⟩
      exact .inr ⟨kept, .refl place _, fun _ _ => rfl⟩
  | hangUp => exact .inr ⟨kept, .refl place _, fun _ _ => rfl⟩
  | @commit stamp event member =>
      refine .inr ⟨kept, ?_, fun unheard environment => ?_⟩
      · rw [client_commit]
        exact .refl place _
      · exact fitting.storedOffset?_commit (fits event (by simp)) stamp (unheard event member).symm
          environment

/-- Whether the streams over the log of a partition are those of its consumer. -/
def Anchored (place : TopicPartition) (scene : Scene LogBroker Cursor ρ) : Prop :=
  ∀ consumer ∈ scene.session.crew.consumers, ∀ cursor, consumer.phase.stream? = some cursor →
    (scene.client.locate place = .ok cursor.log ↔ consumer.place = place)

omit [OffsetStore ρ] in
theorem Anchored.consumer {consumer : Consumer Cursor} (anchored : scene.Anchored consumer.place)
    (member : consumer ∈ scene.session.crew.consumers) : consumer.Anchored scene.client :=
  fun cursor found => (anchored consumer member cursor found).mpr rfl

/-- Whether what is sent of a partition is on its way to a fate. While the consumer of the
partition goes on, it has the rest of the fate before it. -/
structure Faithful (place : TopicPartition) (fate : Fate) (scene : Scene LogBroker Cursor ρ) :
    Prop where
  anchored : scene.Anchored place
  going : ∀ consumer ∈ scene.session.crew.consumers, consumer.place = place →
    consumer.ending? = none →
      (consumer.fate scene.client scene.store).behind (eventsOf place scene.sent) = fate
  whole : ∀ consumer ∈ scene.session.crew.consumers, consumer.place = place →
    ∀ ending, consumer.ending? = some ending → eventsOf place scene.sent <+: fate.events ∧
      (scene.session.crew.stop = false → scene.session.crew.channel.receiving = true →
        eventsOf place scene.sent = fate.events ∧ fate.ending = some ending)

theorem Fresh.faithful {settings : Settings} (fresh : scene.Fresh settings)
    {consumer : Consumer Cursor} (member : consumer ∈ scene.session.crew.consumers) :
    scene.Faithful consumer.place (consumer.fate scene.client scene.store) where
  anchored other otherMember cursor found := by
    rw [(fresh.consumers other otherMember).2] at found
    cases found
  going other otherMember same going := by
    rw [eq_of_place_eq fresh.nodup otherMember member same, fresh.sent]
    rfl
  whole other otherMember same ending ended := by
    rw [Consumer.ending?, (fresh.consumers other otherMember).2] at ended
    cases ended

theorem Anchored.work (anchored : scene.Anchored place) (ordered : scene.Ordered) {index : Nat}
    {consumer : Consumer Cursor} {outcome : Consumer.Outcome LogBroker Cursor}
    (works : scene.Works index consumer outcome) :
    (scene.work index consumer outcome).Anchored place := by
  intro other member cursor found
  have located : (scene.work index consumer outcome).client.locate place =
      scene.client.locate place := works.moves.locate_eq place
  rw [located]
  rcases (works.mem_work_iff ordered.nodup).mp member with rfl | ⟨old, -⟩
  · rw [works.moves.place_eq]
    exact works.moves.stream ordered.sound
      (anchored consumer (List.mem_of_getElem? works.found)) cursor found
  · exact anchored other old cursor found

theorem Anchored.undisturbed (anchored : scene.Anchored place)
    (undisturbed : scene.Undisturbed place after) : after.Anchored place := by
  intro consumer member cursor found
  rw [undisturbed.same.located]
  rcases undisturbed.kept.mem_or_aborted member with old | ⟨⟨old, -, rfl⟩, -⟩
  · exact anchored consumer old cursor found
  · cases found

/-- What is sent of a partition is a beginning of the events of the fate. -/
theorem Faithful.sent_prefix (faithful : scene.Faithful place fate) {consumer : Consumer Cursor}
    (member : consumer ∈ scene.session.crew.consumers) (here : consumer.place = place) :
    eventsOf place scene.sent <+: fate.events := by
  cases ended : consumer.ending? with
  | none =>
      rw [← faithful.going consumer member here ended]
      exact List.prefix_append _ _
  | some ending => exact (faithful.whole consumer member here ending ended).1

/-- A step of the consumer of a partition takes it further on its way. -/
theorem Faithful.work_self (faithful : scene.Faithful place fate) (ordered : scene.Ordered)
    {index : Nat} {consumer : Consumer Cursor} {outcome : Consumer.Outcome LogBroker Cursor}
    (works : scene.Works index consumer outcome) (here : consumer.place = place) :
    (scene.work index consumer outcome).Faithful place fate := by
  subst here
  have anchored := faithful.anchored.work ordered works
  have before := faithful.going consumer (List.mem_of_getElem? works.found) rfl works.moves.going
  have nodup : (scene.work index consumer outcome).places.Nodup := by
    rw [places_work works]
    exact ordered.nodup
  have stays : outcome.consumer ∈ (scene.work index consumer outcome).session.crew.consumers :=
    (works.mem_work_iff ordered.nodup).mpr (.inl rfl)
  have onward (unspoilt : scene.session.crew.stop = false ∧
      scene.session.crew.channel.receiving = true ∨ outcome.consumer.ending? = none) :
      (outcome.consumer.fate outcome.client scene.store).behind
        (eventsOf consumer.place (scene.work index consumer outcome).sent) = fate := by
    have fate_eq : consumer.fate scene.client scene.store =
        (outcome.consumer.fate outcome.client scene.store).behind outcome.emission.events :=
      works.moves.fate_eq ordered.sound unspoilt
    rw [← before, fate_eq, ordered.eventsOf_work_self works]
    simp [Fate.behind]
  constructor
  · exact anchored
  · intro other member same going
    rcases eq_of_place_eq nodup member stays (same.trans works.moves.place_eq.symm) with rfl
    exact onward (.inr going)
  · intro other member same ending ended
    rcases eq_of_place_eq nodup member stays (same.trans works.moves.place_eq.symm) with rfl
    have whole (unspoilt : scene.session.crew.stop = false ∧
        scene.session.crew.channel.receiving = true) :
        eventsOf consumer.place (scene.work index consumer outcome).sent = fate.events ∧
          fate.ending = some ending := by
      rw [← onward (.inl unspoilt), Consumer.fate_of_ending? ended]
      simp
    by_cases unspoilt : scene.session.crew.stop = false ∧
        scene.session.crew.channel.receiving = true
    · obtain ⟨events_eq, ending_eq⟩ := whole unspoilt
      exact ⟨events_eq ▸ List.prefix_rfl, fun _ _ => ⟨events_eq, ending_eq⟩⟩
    · have silent : outcome.emission.events = [] := works.moves.events_of_spoilt unspoilt
      have sent_eq : (scene.work index consumer outcome).sent = scene.sent := by
        simp [silent]
      rw [sent_eq, stop_work, receiving_work]
      constructor
      · rw [← before]
        exact List.prefix_append _ _
      · exact fun untold heard => absurd ⟨untold, heard⟩ unspoilt

/-- A step of the consumer of another partition does not matter to it. -/
theorem Faithful.work_of_ne (faithful : scene.Faithful place fate) (ordered : scene.Ordered)
    {index : Nat} {consumer : Consumer Cursor} {outcome : Consumer.Outcome LogBroker Cursor}
    (works : scene.Works index consumer outcome) (apart : consumer.place ≠ place) :
    (scene.work index consumer outcome).Faithful place fate := by
  have same : scene.client.Same place outcome.client :=
    works.moves.same fun cursor found located => apart
      ((faithful.anchored consumer (List.mem_of_getElem? works.found) cursor found).mp located)
  have sent_eq := ordered.eventsOf_work_of_ne works apart
  have old {other : Consumer Cursor}
      (member : other ∈ (scene.work index consumer outcome).session.crew.consumers)
      (here : other.place = place) : other ∈ scene.session.crew.consumers :=
    ordered.mem_of_mem_work works member (here ▸ apart)
  constructor
  · exact faithful.anchored.work ordered works
  · intro other member here going
    have before := faithful.going other (old member here) here going
    rw [sent_eq, ← before]
    subst here
    congr 1
    exact Consumer.fate_of_same same (faithful.anchored.consumer (old member rfl)) fun _ => rfl
  · intro other member here ending ended
    have whole := faithful.whole other (old member here) here ending ended
    rw [sent_eq, stop_work, receiving_work]
    exact whole

/-- Steps that no consumer makes take nothing away from it. -/
theorem Faithful.undisturbed (faithful : scene.Faithful place fate) (ordered : scene.Ordered)
    (conserved : scene.Conserved) (signalled : scene.Signalled)
    (undisturbed : scene.Undisturbed place after) : after.Faithful place fate := by
  have kept := undisturbed.kept
  have fate_eq {consumer : Consumer Cursor} (member : consumer ∈ scene.session.crew.consumers)
      (here : consumer.place = place) :
      consumer.fate after.client after.store = consumer.fate scene.client scene.store := by
    subst here
    apply Consumer.fate_of_same undisturbed.same (faithful.anchored.consumer member)
    intro phase
    apply undisturbed.stored
    intro event heard same
    have unsent := ordered.ahead consumer member
    rw [Consumer.Ahead, phase] at unsent
    exact eventsOf_eq_nil_iff.mp unsent event (conserved.heard.subset heard) same
  constructor
  · exact faithful.anchored.undisturbed undisturbed
  · intro consumer member here going
    rw [kept.sent]
    rcases kept.mem_or_aborted member with old | ⟨⟨old, -, rfl⟩, -⟩
    · rw [fate_eq old here]
      exact faithful.going consumer old here going
    · cases going
  · intro consumer member here ending ended
    rw [kept.sent]
    rcases kept.mem_or_aborted member with old | ⟨⟨old, oldMember, rfl⟩, reason, deadline, draining⟩
    · have whole := faithful.whole consumer old here ending ended
      exact ⟨whole.1, fun untold heard => whole.2 (kept.untold untold) (kept.receiving heard)⟩
    · constructor
      · exact faithful.sent_prefix oldMember here
      · intro untold
        rw [kept.stop (signalled reason deadline draining)] at untold
        cases untold

/-- What is always so in a scene of a sound broker. -/
structure Steady (scene : Scene LogBroker Cursor ρ) : Prop where
  ordered : scene.Ordered
  conserved : scene.Conserved
  signalled : scene.Signalled
  fitting : scene.Fitting

omit [OffsetStore ρ] in
theorem Fresh.steady {settings : Settings} (fresh : scene.Fresh settings)
    (sound : scene.client.Sound) : scene.Steady :=
  ⟨fresh.ordered sound, fresh.conserved, fresh.signalled, fresh.fitting⟩

theorem Steady.run (steady : scene.Steady)
    (keeps : ∀ {broker after}, others broker after → broker.Sound → after.Sound)
    (runs : ReflTransGen (Step others) scene after)
    (fits : ∀ event ∈ after.committed, Storable event.place.partition (event.offset + 1)) :
    after.Steady :=
  ⟨steady.ordered.run keeps runs, steady.conserved.run runs, steady.signalled.run runs,
    steady.fitting.run runs fits⟩

variable [LawfulStore ρ]

theorem Faithful.step (faithful : scene.Faithful place fate) (steady : scene.Steady)
    (untouched : ∀ {broker after}, others broker after → broker.Same place after)
    (step : Step others scene after)
    (fits : ∀ event ∈ after.committed, Storable event.place.partition (event.offset + 1)) :
    after.Faithful place fate := by
  rcases step.work_or_undisturbed steady.fitting fits untouched with
    ⟨index, consumer, outcome, works, rfl⟩ | undisturbed
  · by_cases here : consumer.place = place
    · exact faithful.work_self steady.ordered works here
    · exact faithful.work_of_ne steady.ordered works here
  · exact faithful.undisturbed steady.ordered steady.conserved steady.signalled undisturbed

theorem Faithful.run (faithful : scene.Faithful place fate) (steady : scene.Steady)
    (keeps : ∀ {broker after}, others broker after → broker.Sound → after.Sound)
    (untouched : ∀ {broker after}, others broker after → broker.Same place after)
    (runs : ReflTransGen (Step others) scene after)
    (fits : ∀ event ∈ after.committed, Storable event.place.partition (event.offset + 1)) :
    after.Faithful place fate := by
  induction runs with
  | refl => exact faithful
  | tail before step ih =>
      have fitsBefore := fun event member => fits event (step.committed_prefix.subset member)
      exact (ih fitsBefore).step (steady.run keeps before fitsBefore) untouched step fits

omit [OffsetStore ρ] [LawfulStore ρ] in
/-- The events that have come through the channel or wait in it. -/
def channelled (scene : Scene LogBroker Cursor ρ) : List Event :=
  scene.received ++ scene.session.crew.channel.buffer

omit [LawfulStore ρ] in
/-- While the reader listens and the consumers are not told to stop, what comes of a partition
is a beginning of the events of its fate, and all of them once its consumer has ended. -/
theorem Faithful.eventsOf_channelled (faithful : scene.Faithful place fate)
    (conserved : scene.Conserved) (planned : place ∈ scene.places)
    (untold : scene.session.crew.stop = false)
    (heard : scene.session.crew.channel.receiving = true) :
    eventsOf place scene.channelled <+: fate.events ∧
      ∀ consumer ∈ scene.session.crew.consumers, consumer.place = place →
        ∀ ending, consumer.ending? = some ending →
          eventsOf place scene.channelled = fate.events ∧ fate.ending = some ending := by
  have sent_eq : scene.channelled = scene.sent := (conserved.waiting heard).symm
  rcases List.mem_map.mp planned with ⟨consumer, member, here⟩
  rw [sent_eq]
  exact ⟨faithful.sent_prefix member here, fun consumer member here ending ended =>
    (faithful.whole consumer member here ending ended).2 untold heard⟩

/-- Whatever the order of the steps, while the reader listens and the consumers are not told
to stop, what has come of a planned partition is a beginning of what its consumer delivers
when it is alone, and all of it once the consumer has ended. Nothing comes of partitions that
were not planned, and the channel is closed only when there is nothing to come. The offsets
behind what was committed are taken to have the size that stores keep. -/
theorem fan_in_faithful {settings : Settings} {born now : Nat} {cancelled : Bool}
    {topics : Session.Topics} {client : LogBroker} {store : ρ} {result : Except RunError Unit}
    {first : Scene LogBroker Cursor ρ}
    (keeps : ∀ {broker after}, others broker after → broker.Sound → after.Sound)
    (sound : client.Sound)
    (started : start settings born cancelled topics now client store = (result, first))
    (runs : ReflTransGen (Step others) first scene)
    (fits : ∀ event ∈ scene.committed, Storable event.place.partition (event.offset + 1))
    (untold : scene.session.crew.stop = false)
    (heard : scene.session.crew.channel.receiving = true) :
    (scene.places = first.places ∧ first.places.Nodup ∧
      ∀ event ∈ scene.channelled, event.place ∈ first.places) ∧
    (∀ planned ∈ first.session.crew.consumers,
      (∀ {broker after}, others broker after → broker.Same planned.place after) →
        ∃ fate, planned.Destined first.client store fate ∧
          eventsOf planned.place scene.channelled <+: fate.events ∧
          ∀ consumer ∈ scene.session.crew.consumers, consumer.place = planned.place →
            ∀ ending, consumer.ending? = some ending →
              eventsOf planned.place scene.channelled = fate.events ∧
                fate.ending = some ending) ∧
    (scene.session.crew.isDry = true →
      (∀ consumer ∈ scene.session.crew.consumers, ∃ ending, consumer.ending? = some ending) ∧
        scene.session.crew.channel.buffer = [] ∧
        ∀ {later}, ReflTransGen (Step others) scene later →
          later.session.crew.isDry = true ∧ later.received = scene.received) := by
  obtain ⟨fresh, soundFirst⟩ := fresh_start sound started
  have steadyFirst := fresh.steady soundFirst
  have steady := steadyFirst.run keeps runs fits
  have places_eq := places_eq_of_reaches runs
  refine ⟨⟨places_eq, fresh.nodup, fun event member => ?_⟩, fun planned member untouched => ?_,
    fun dry => ?_⟩
  · have sent_eq : scene.channelled = scene.sent := (steady.conserved.waiting heard).symm
    exact places_eq ▸ steady.ordered.owned.sent event (sent_eq ▸ member)
  · have faithful := (fresh.faithful member).run steadyFirst keeps untouched runs fits
    have stays : planned.place ∈ scene.places := places_eq ▸ List.mem_map_of_mem member
    obtain ⟨comes, whole⟩ := faithful.eventsOf_channelled steady.conserved stays untold heard
    refine ⟨_, ?_, comes, whole⟩
    rw [← store_start started]
    exact Consumer.destined_fate (fresh.consumers planned member).2
  · have parts := Bool.and_eq_true_iff.mp dry
    refine ⟨fun consumer member => Option.isSome_iff_exists.mp ?_, ?_, fun later =>
      received_of_dry later dry⟩
    · exact List.all_eq_true.mp parts.1 consumer member
    · exact List.isEmpty_iff.mp parts.2

section Ailing

open Store (MemoryStore)

/-- Two partitions, the second of which meets an error that does not pass. -/
def ailingBroker : LogBroker := LogBroker.orders.modify 1 (·.inject (.configuration "no such user"))

theorem sound_ailingBroker : ailingBroker.Sound :=
  LogBroker.sound_orders.modify 1 fun _ dense => dense

/-- Two consumers behind a channel with room for one event. -/
def ailingStart : Except RunError Unit × Scene LogBroker Cursor MemoryStore :=
  start { capacity := 1 } 0 false
    (OrderedMap.empty.insert "orders" { common := ⟨.oldest, some .newest⟩ }) 0 ailingBroker {}

/-- The second consumer fails while the first one waits for room. -/
def ailingSchedule : List Pick :=
  [.work 0, .work 1, .work 0, .work 0, .work 0, .work 1, .work 0, .work 1, .read, .work 0, .read]

/-- The first partition is delivered in full though the second one failed. It is what its
consumer delivers alone with a broker on which nothing fails. -/
theorem fan_in_faithful_ailing :
    ∃ scene planned fate, ailingStart.2.play? ailingSchedule = some scene ∧
      scene.session.crew.isDry = true ∧ planned ∈ ailingStart.2.session.crew.consumers ∧
      planned.Delivers LogBroker.orders ({} : MemoryStore) fate ∧
      fate.events.map (·.offset) = [0, 1] ∧ fate.ending = some (.finished .stopped) := by
  obtain ⟨scene, played⟩ : ∃ scene, ailingStart.2.play? ailingSchedule = some scene :=
    Option.isSome_iff_exists.mp (by decide +kernel)
  have seen : (ailingStart.2.play? ailingSchedule).map (fun scene => (scene.session.crew.isDry,
      scene.session.crew.stop, scene.session.crew.channel.receiving,
      (eventsOf ⟨"orders", 0⟩ scene.channelled).map (·.offset))) =
        some (true, false, true, [0, 1]) := by
    decide +kernel
  have ends : (ailingStart.2.play? ailingSchedule).map (fun scene =>
      scene.session.crew.consumers.map fun consumer => (consumer.place, consumer.ending?)) =
        some [(⟨"orders", 0⟩, some (.finished .stopped)),
          (⟨"orders", 1⟩, some (.failed (.broker (.configuration "no such user"))))] := by
    decide +kernel
  have fits : (ailingStart.2.play? ailingSchedule).map (fun scene => decide (∀ event ∈
      scene.committed, Storable event.place.partition (event.offset + 1))) = some true := by
    decide +kernel
  rw [played] at seen ends fits
  obtain ⟨dry, untold, heard, offsets⟩ := by simpa using seen
  rw [Option.map_some, Option.some.injEq] at ends
  obtain ⟨planned, member, place⟩ : ∃ planned ∈ ailingStart.2.session.crew.consumers,
      planned.place = ⟨"orders", 0⟩ := List.mem_map.mp (by decide +kernel)
  obtain ⟨consumer, here, paired⟩ : ∃ consumer ∈ scene.session.crew.consumers,
      (consumer.place, consumer.ending?) = (⟨"orders", 0⟩, some (.finished .stopped)) :=
    List.mem_map.mp (ends ▸ List.mem_cons_self)
  rcases Prod.mk.inj paired with ⟨consumer_place, ended⟩
  have started : ailingStart = (ailingStart.1, ailingStart.2) := rfl
  have keeps {broker after : LogBroker} (same : broker = after) (sound : broker.Sound) :
      after.Sound := same ▸ sound
  obtain ⟨-, faithful, -⟩ := fan_in_faithful keeps sound_ailingBroker started
    (reaches_of_play? Eq played) (of_decide_eq_true (Option.some.inj fits)) untold heard
  obtain ⟨fate, destined, -, whole⟩ := faithful planned member fun same => same ▸ .refl _ _
  obtain ⟨events_eq, ending_eq⟩ := whole consumer here (consumer_place.trans place.symm) _ ended
  have alike : ailingStart.2.client.Alike planned.place LogBroker.orders := by
    rw [place]
    exact ⟨rfl, rfl⟩
  refine ⟨scene, planned, fate, played, dry, member, ?_, ?_, ending_eq⟩
  · exact (destined _ _ LogBroker.sound_orders alike rfl fate).mpr rfl
  · rw [← events_eq, place]
    exact offsets

end Ailing

end Scene

end TopicReplay
