import TopicReplay.Proofs.Session.FanIn
import TopicReplay.Proofs.Session.Noted

/-!
# Summaries tell the truth

However a run ends, its summary has one entry for every planned partition. An entry says
how the consumer of the partition ended if the supervisor took note of it, which it does of
all consumers unless it gives some up, and it counts the events that were sent of the
partition.
-/

namespace TopicReplay

open Broker (Client)
open Relation (ReflTransGen)
open Store (OffsetStore)

/-- What is counted of the events of a partition. -/
def Counters.of (events : List Event) : Counters where
  consumed := events.length
  lastOffset := events.getLast?.map (·.offset)

theorem Counters.count_of (events : List Event) (event : Event) :
    (Counters.of events).count event.offset = Counters.of (events ++ [event]) := by
  simp [Counters.of, Counters.count]

/-- How the reading of a partition ended, by the summary. -/
def Summary.outcome? (summary : Summary) (place : TopicPartition) : Option PartitionOutcome :=
  (summary.partitions.get? place).map (·.outcome)

namespace Session

variable {β σ : Type}

/-- The partitions that a session is to read, unless it was asked to stop before. -/
def plannedPlaces [Client β σ] (settings : Settings) (cancelled : Bool) (topics : Topics)
    (client : β) : List TopicPartition :=
  if cancelled then []
  else
    match planTopics settings topics.toList client with
    | (.ok planned, _) => planned.map (·.place)
    | (.error _, _) => []

variable {session : Session σ} (reason : Reason)

/-- A summary has one entry for the partition of each consumer. -/
theorem keys_summarise (nodup : (session.crew.consumers.map (·.place)).Nodup) :
    (session.summarise reason).partitions.keys.Perm (session.crew.consumers.map (·.place)) := by
  let entryOf (consumer : Consumer σ) : TopicPartition × PartitionSummary :=
    (consumer.place, {
      outcome := session.outcomes.getD consumer.place .aborted
      counters := session.crew.stats.counters consumer.place })
  have perm : (session.summarise reason).partitions.toList.Perm
      (session.crew.consumers.map entryOf) :=
    OrderedMap.perm_toList_ofList (by simpa [entryOf, Function.comp_def] using nodup)
  have keys := perm.map (·.1)
  rw [List.map_map] at keys
  exact keys

/-- An entry of a summary tells what is on record of its partition. -/
theorem get?_summarise (nodup : (session.crew.consumers.map (·.place)).Nodup)
    {place : TopicPartition} {entry : PartitionSummary} :
    (session.summarise reason).partitions.get? place = some entry ↔
      place ∈ session.crew.consumers.map (·.place) ∧
        entry.outcome = session.outcomes.getD place .aborted ∧
        entry.counters = session.crew.stats.counters place := by
  rw [← OrderedMap.mem_toList_iff, summarise, (OrderedMap.perm_toList_ofList _).mem_iff]
  · constructor
    · intro member
      rcases List.mem_map.mp member with ⟨consumer, consumerMember, pair_eq⟩
      rcases Prod.mk.inj pair_eq with ⟨rfl, rfl⟩
      exact ⟨List.mem_map_of_mem consumerMember, rfl, rfl⟩
    · rintro ⟨member, outcome_eq, counters_eq⟩
      rcases List.mem_map.mp member with ⟨consumer, consumerMember, rfl⟩
      apply List.mem_map.mpr
      refine ⟨consumer, consumerMember, ?_⟩
      rw [← outcome_eq, ← counters_eq]
  · simpa [Function.comp_def] using nodup

end Session

/-- A crew counts what its consumers give off. -/
theorem Crew.counters_absorb {σ : Type} (crew : Crew σ) (now : Nat) {place other : TopicPartition}
    {emission : Consumer.Emission} {sent : List Event}
    (owned : ∀ event ∈ emission.events, event.place = place)
    (tallied : crew.stats.counters other = Counters.of (eventsOf other sent)) :
    (crew.absorb now place emission).stats.counters other =
      Counters.of (eventsOf other (sent ++ emission.events)) := by
  cases emission with
  | none => simpa [absorb] using tallied
  | report e => simpa [absorb, report] using tallied
  | delivery event =>
      have here : event.place = place := owned event List.mem_cons_self
      simp only [absorb, Consumer.events_delivery, eventsOf_append]
      by_cases same : other = place
      · rw [same] at tallied ⊢
        rw [Stats.counters_record_self, tallied, Counters.count_of, ← here, eventsOf_singleton_self]
      · rw [Stats.counters_record_of_ne _ _ _ same, tallied,
          eventsOf_singleton_of_ne (here ▸ Ne.symm same), List.append_nil]

namespace Scene

variable {β σ ρ : Type} [Client β σ] [OffsetStore ρ] {others : β → β → Prop}
  {scene after : Scene β σ ρ}

/-- Whether what is counted of every partition is what was sent of it. -/
def Tallied (scene : Scene β σ ρ) : Prop :=
  ∀ place, scene.session.crew.stats.counters place = Counters.of (eventsOf place scene.sent)

omit [Client β σ] [OffsetStore ρ] in
theorem Fresh.tallied {settings : Settings} (fresh : scene.Fresh settings) : scene.Tallied := by
  intro place
  rw [fresh.counters, fresh.sent]
  rfl

theorem Tallied.step (tallied : scene.Tallied) (owned : scene.Owned)
    (step : Step others scene after) : after.Tallied := by
  rcases step.work_or_kept with ⟨index, consumer, outcome, works, rfl⟩ | kept
  · intro place
    have owns := owned.owns consumer (List.mem_of_getElem? works.found)
    have here (event : Event) (member : event ∈ outcome.emission.events) :=
      works.moves.place_of_mem_events owns member
    exact Crew.counters_absorb _ _ here (tallied place)
  · intro place
    rw [kept.stats, kept.sent]
    exact tallied place

end Scene

namespace Chronicle

variable {β σ ρ : Type} {chronicle after : Chronicle β σ ρ}

/-- Whether consumers are told to stop for a reason only, and a run that was completed has
taken note of all its consumers. -/
structure Reasoned (chronicle : Chronicle β σ ρ) : Prop where
  draining : ∀ reason deadline, chronicle.scene.session.supervisor = .draining reason deadline →
    reason ≠ .completed
  completed : ∀ summary, chronicle.scene.session.supervisor = .done summary →
    summary.reason = .completed → ∀ index < chronicle.scene.places.length,
      index ∈ chronicle.joined

section Run

variable [Client β σ] [OffsetStore ρ] {others : β → β → Prop}

omit [Client β σ] [OffsetStore ρ] in
theorem reasoned_of_fresh {settings : Settings} {scene : Scene β σ ρ}
    (fresh : scene.Fresh settings) : Reasoned { scene } where
  draining reason deadline draining := absurd draining (fresh.undrained reason deadline)
  completed summary drawn _ index inside := by
    have none := (fresh.summary summary (by rw [Session.summary?, drawn])).1
    simp [Scene.places, none] at inside

omit [Client β σ] [OffsetStore ρ] in
/-- A run that is settled has taken note of all its consumers. -/
theorem Roster.joined_of_settled (roster : chronicle.Roster)
    (undone : chronicle.scene.session.summary? = none)
    (settled : chronicle.scene.session.crew.isSettled = true) {index : Nat}
    (inside : index < chronicle.scene.places.length) : index ∈ chronicle.joined := by
  rcases Bool.and_eq_true_iff.mp settled with ⟨allEnded, unnoted⟩
  have inside : index < chronicle.scene.session.crew.consumers.length := by
    simpa [Scene.places] using inside
  have ended := List.all_eq_true.mp allEnded _ (List.getElem_mem inside)
  rcases Option.isSome_iff_exists.mp ended with ⟨ending, ended⟩
  have known := roster.known undone index _ ending (List.getElem?_eq_getElem inside) ended
  rwa [Chronicle.ended, List.isEmpty_iff.mp unnoted, List.append_nil] at known

omit [Client β σ] [OffsetStore ρ] in
theorem Reasoned.of_eq (reasoned : chronicle.Reasoned)
    (supervisor : after.scene.session.supervisor = chronicle.scene.session.supervisor)
    (places : after.scene.places = chronicle.scene.places)
    (joined : chronicle.joined ⊆ after.joined) : after.Reasoned where
  draining reason deadline draining := reasoned.draining reason deadline (supervisor ▸ draining)
  completed summary drawn complete index inside :=
    joined (reasoned.completed summary (supervisor ▸ drawn) complete index (places ▸ inside))

theorem Reasoned.step (reasoned : chronicle.Reasoned) (roster : chronicle.Roster)
    (step : Step others chronicle after) : after.Reasoned := by
  have places_eq := step.scene.places_eq
  cases step with
  | work worked =>
      rcases Scene.workAt?_eq_some_iff.mp worked with ⟨consumer, outcome, works, rfl⟩
      exact reasoned.of_eq rfl places_eq (List.Subset.refl _)
  | join undone waits =>
      refine reasoned.of_eq ?_ places_eq (List.subset_append_left _ _)
      exact Session.supervisor_noteAt _ _ _
  | rule supervised moved why =>
      cases supervised with
      | noted undone joined => exact absurd (Session.supervisor_of_join? joined) moved
      | completed watching settled =>
          constructor
          · intro reason deadline draining
            cases draining
          · intro summary drawn complete index inside
            exact roster.joined_of_settled (by simp [Session.summary?, watching]) settled inside
      | told watching _ =>
          constructor
          · rintro reason deadline draining rfl
            exact why watching _ _ draining
          · intro summary drawn
            cases drawn
      | drained draining settled =>
          constructor
          · intro reason deadline drains
            cases drains
          · intro summary drawn complete
            cases drawn
            exact absurd complete (reasoned.draining _ _ draining)
      | gaveUp draining late aborted =>
          constructor
          · intro reason deadline drains
            cases drains
          · intro summary drawn complete
            cases drawn
            exact absurd complete (reasoned.draining _ _ draining)
  | aside aside => exact reasoned.of_eq aside.unmoved.supervisor places_eq (List.Subset.refl _)

/-- What is always so of a run over distinct partitions. -/
structure Kept (chronicle : Chronicle β σ ρ) : Prop where
  distinct : chronicle.scene.places.Nodup
  counted : chronicle.scene.Counted
  tallied : chronicle.scene.Tallied
  drawn : chronicle.scene.Drawn
  roster : chronicle.Roster
  recorded : chronicle.Recorded
  reasoned : chronicle.Reasoned

theorem Kept.step (kept : chronicle.Kept) (step : Step others chronicle after) : after.Kept where
  distinct := by
    rw [step.scene.places_eq]
    exact kept.distinct
  counted := kept.counted.step step.scene
  tallied := kept.tallied.step kept.counted.owned step.scene
  drawn := kept.drawn.step step.scene
  roster := kept.roster.step step
  recorded := kept.recorded.step kept.roster kept.distinct step
  reasoned := kept.reasoned.step kept.roster step

theorem Kept.run (kept : chronicle.Kept) (runs : ReflTransGen (Step others) chronicle after) :
    after.Kept := by
  induction runs with
  | refl => exact kept
  | tail _ step ih => exact ih.step step

end Run

/-- What a summary says that tells the truth about a run over `planned` partitions. -/
structure Truthful (chronicle : Chronicle β σ ρ) (planned : List TopicPartition)
    (summary : Summary) : Prop where
  /-- There is one entry for each partition. -/
  entries : summary.partitions.keys.Perm planned
  finished : ∀ place t, summary.outcome? place = some (.finished t) ↔
    chronicle.Joined place (.finished t)
  failed : ∀ place text, summary.outcome? place = some (.failed text) ↔
    ∃ e, chronicle.Joined place (.failed e) ∧ e.message = text
  aborted : ∀ place ∈ planned, summary.outcome? place = some .aborted ↔
    ∀ ending, ¬chronicle.Joined place ending
  completed : summary.reason = .completed → ∀ place, summary.outcome? place ≠ some .aborted
  counters : ∀ place entry, summary.partitions.get? place = some entry →
    entry.counters = Counters.of (eventsOf place chronicle.scene.sent)
  total : summary.total = (summary.partitions.values.map (·.counters.consumed)).sum ∧
    summary.total = chronicle.scene.session.crew.stats.total ∧
    summary.total = chronicle.scene.sent.length
  /-- What was reported is what consumers got over and, once for each entry, what failed. -/
  reports : chronicle.scene.session.crew.reports.Perm (chronicle.passed ++ chronicle.failures)
  fatal : (chronicle.failures.map (·.place)).Nodup ∧
    ∀ place e, ⟨place, e⟩ ∈ chronicle.failures ↔ chronicle.Joined place (.failed e)

section Kept

variable {summary : Summary}

/-- The consumer that was taken note of has its partition among those that are read. -/
theorem Joined.mem_places {place : TopicPartition} {ending : Ending}
    (joined : chronicle.Joined place ending) : place ∈ chronicle.scene.places := by
  rcases joined with ⟨index, -, consumer, found, rfl, -⟩
  exact List.mem_map_of_mem (List.mem_of_getElem? found)

/-- The entries of a summary repeat what is on record. -/
theorem Kept.get?_eq_some_iff (kept : chronicle.Kept)
    (found : chronicle.scene.session.summary? = some summary) {place : TopicPartition}
    {entry : PartitionSummary} :
    summary.partitions.get? place = some entry ↔ place ∈ chronicle.scene.places ∧
      entry.outcome = chronicle.scene.session.outcomes.getD place .aborted ∧
      entry.counters = Counters.of (eventsOf place chronicle.scene.sent) := by
  rw [(kept.drawn summary found).2, Session.get?_summarise _ kept.distinct, kept.tallied]
  rfl

theorem Kept.outcome?_eq_some_iff (kept : chronicle.Kept)
    (found : chronicle.scene.session.summary? = some summary) {place : TopicPartition}
    {outcome : PartitionOutcome} :
    summary.outcome? place = some outcome ↔ place ∈ chronicle.scene.places ∧
      chronicle.scene.session.outcomes.getD place .aborted = outcome := by
  rw [Summary.outcome?, Option.map_eq_some_iff]
  simp only [kept.get?_eq_some_iff found]
  constructor
  · rintro ⟨entry, ⟨member, outcome_eq, -⟩, rfl⟩
    exact ⟨member, outcome_eq.symm⟩
  · rintro ⟨member, rfl⟩
    exact ⟨⟨_, _⟩, ⟨member, rfl, rfl⟩, rfl⟩

/-- An outcome other than that of a consumer that was given up is on record. -/
theorem Kept.outcome?_eq_iff_joined (kept : chronicle.Kept)
    (found : chronicle.scene.session.summary? = some summary) {place : TopicPartition}
    {outcome : PartitionOutcome} (told : outcome ≠ .aborted) :
    summary.outcome? place = some outcome ↔
      ∃ ending, chronicle.Joined place ending ∧ ending.outcome? = some outcome := by
  rw [kept.outcome?_eq_some_iff found, ← kept.recorded.outcomes, OrderedMap.getD]
  constructor
  · rintro ⟨-, rfl⟩
    cases recorded : chronicle.scene.session.outcomes.get? place with
    | none => simp [recorded] at told
    | some outcome => rfl
  · intro recorded
    rcases (kept.recorded.outcomes _ _).mp recorded with ⟨ending, joined, -⟩
    exact ⟨joined.mem_places, by simp [recorded]⟩

theorem Kept.finished_iff (kept : chronicle.Kept)
    (found : chronicle.scene.session.summary? = some summary) {place : TopicPartition}
    {t : Termination} :
    summary.outcome? place = some (.finished t) ↔ chronicle.Joined place (.finished t) := by
  have told : PartitionOutcome.finished t ≠ .aborted := nofun
  rw [kept.outcome?_eq_iff_joined found told]
  constructor
  · rintro ⟨ending, joined, outcome_eq⟩
    cases ending <;> cases outcome_eq
    exact joined
  · exact fun joined => ⟨_, joined, rfl⟩

theorem Kept.failed_iff (kept : chronicle.Kept)
    (found : chronicle.scene.session.summary? = some summary) {place : TopicPartition}
    {text : String} :
    summary.outcome? place = some (.failed text) ↔
      ∃ e, chronicle.Joined place (.failed e) ∧ e.message = text := by
  have told : PartitionOutcome.failed text ≠ .aborted := nofun
  rw [kept.outcome?_eq_iff_joined found told]
  constructor
  · rintro ⟨ending, joined, outcome_eq⟩
    cases ending <;> cases outcome_eq
    exact ⟨_, joined, rfl⟩
  · rintro ⟨e, joined, rfl⟩
    exact ⟨_, joined, rfl⟩

/-- A consumer that was taken note of had not been given up. -/
theorem Joined.ne_aborted (roster : chronicle.Roster) {place : TopicPartition} {ending : Ending}
    (joined : chronicle.Joined place ending) : ending ≠ .aborted := by
  rcases joined with ⟨index, member, consumer, found, -, ended⟩
  rcases roster.ended index (List.mem_append_left _ member) with
    ⟨other, otherEnding, otherFound, otherEnded, byItself⟩
  have other_eq : other = consumer := Option.some.inj (otherFound.symm.trans found)
  rw [other_eq, ended] at otherEnded
  exact Option.some.inj otherEnded ▸ byItself

variable (uncrashed : ∀ consumer ∈ chronicle.scene.session.crew.consumers,
  consumer.ending? ≠ some .crashed)

include uncrashed

theorem Kept.aborted_iff (kept : chronicle.Kept)
    (found : chronicle.scene.session.summary? = some summary) {place : TopicPartition}
    (member : place ∈ chronicle.scene.places) :
    summary.outcome? place = some .aborted ↔ ∀ ending, ¬chronicle.Joined place ending := by
  have silent : chronicle.scene.session.outcomes.get? place ≠ some .aborted := by
    intro recorded
    rcases (kept.recorded.outcomes _ _).mp recorded with ⟨ending, -, outcome_eq⟩
    cases ending <;> cases outcome_eq
  rw [kept.outcome?_eq_some_iff found, OrderedMap.getD]
  constructor
  · rintro ⟨-, unrecorded⟩ ending joined
    cases recorded : chronicle.scene.session.outcomes.get? place with
    | some outcome => simp_all
    | none =>
        have known {outcome : PartitionOutcome} (outcome_eq : ending.outcome? = some outcome) :
            False := by
          have there := (kept.recorded.outcomes _ _).mpr ⟨ending, joined, outcome_eq⟩
          rw [recorded] at there
          cases there
        cases ending with
        | finished t => exact known rfl
        | failed e => exact known rfl
        | crashed =>
            rcases joined with ⟨index, -, consumer, consumerFound, -, ended⟩
            exact uncrashed consumer (List.mem_of_getElem? consumerFound) ended
        | aborted => exact joined.ne_aborted kept.roster rfl
  · intro unjoined
    refine ⟨member, ?_⟩
    cases recorded : chronicle.scene.session.outcomes.get? place with
    | none => rfl
    | some outcome =>
        rcases (kept.recorded.outcomes _ _).mp recorded with ⟨ending, joined, -⟩
        exact absurd joined (unjoined ending)

/-- No consumer of a run that was completed was given up. -/
theorem Kept.outcome?_ne_aborted (kept : chronicle.Kept)
    (found : chronicle.scene.session.summary? = some summary)
    (complete : summary.reason = .completed) (place : TopicPartition) :
    summary.outcome? place ≠ some .aborted := by
  intro aborted
  have member := ((kept.outcome?_eq_some_iff found).mp aborted).1
  have unjoined := (kept.aborted_iff uncrashed found member).mp aborted
  have drawn : chronicle.scene.session.supervisor = .done summary := by
    unfold Session.summary? at found
    split at found
    · cases found
      assumption
    · cases found
  rcases List.getElem?_of_mem member with ⟨index, at_index⟩
  have inside := (List.getElem?_eq_some_iff.mp at_index).choose
  have joined := kept.reasoned.completed summary drawn complete index inside
  rcases kept.roster.ended index (List.mem_append_left _ joined) with
    ⟨consumer, ending, consumerFound, ended, -⟩
  have place_eq : consumer.place = place := by
    have placed := consumerFound
    simp only [consumer?] at placed
    simpa [Scene.places, placed] using at_index
  exact unjoined ending ⟨index, joined, consumer, consumerFound, place_eq, ended⟩

end Kept

theorem failure?_eq_some_iff {index : Nat} {place : TopicPartition} {e : RunError} :
    chronicle.failure? index = some ⟨place, e⟩ ↔ ∃ consumer,
      chronicle.consumer? index = some consumer ∧ consumer.place = place ∧
        consumer.ending? = some (.failed e) := by
  unfold failure?
  constructor
  · intro failed
    rcases Option.bind_eq_some_iff.mp failed with ⟨consumer, found, failed⟩
    rcases Option.map_eq_some_iff.mp failed with ⟨error, failed, pair_eq⟩
    rcases Option.bind_eq_some_iff.mp failed with ⟨ending, ended, error_eq⟩
    cases ending <;> cases error_eq
    cases pair_eq
    exact ⟨consumer, found, rfl, ended⟩
  · rintro ⟨consumer, found, rfl, ended⟩
    simp [found, ended, Ending.error?]

theorem mem_failures_iff {place : TopicPartition} {e : RunError} :
    ⟨place, e⟩ ∈ chronicle.failures ↔ chronicle.Joined place (.failed e) := by
  simp only [failures, List.mem_filterMap, failure?_eq_some_iff, Joined]

/-- Every failure that was taken note of is reported once. -/
theorem Kept.nodup_failures (kept : chronicle.Kept) :
    (chronicle.failures.map (·.place)).Nodup := by
  have joined : chronicle.joined.Nodup := kept.roster.nodup.sublist (List.sublist_append_left _ _)
  rw [failures, List.map_filterMap]
  apply List.Pairwise.filterMap _ _ joined
  intro index other apart place here otherPlace there same
  rcases Option.map_eq_some_iff.mp here with ⟨failure, failed, rfl⟩
  rcases Option.map_eq_some_iff.mp there with ⟨otherFailure, otherFailed, rfl⟩
  rcases failure?_eq_some_iff.mp failed with ⟨consumer, found, place_eq, -⟩
  rcases failure?_eq_some_iff.mp otherFailed with ⟨second, secondFound, secondPlace, -⟩
  exact apart (index_eq_of_place_eq kept.distinct found secondFound
    (place_eq.trans (same.trans secondPlace.symm)))

/-- The summary of a run over distinct partitions tells the truth. -/
theorem Kept.truthful (kept : chronicle.Kept)
    (found : chronicle.scene.session.summary? = some summary)
    (uncrashed : ∀ consumer ∈ chronicle.scene.session.crew.consumers,
      consumer.ending? ≠ some .crashed) :
    chronicle.Truthful chronicle.scene.places summary where
  entries := by
    rw [(kept.drawn summary found).2]
    exact Session.keys_summarise _ kept.distinct
  finished place t := kept.finished_iff found
  failed place text := kept.failed_iff found
  aborted place member := kept.aborted_iff uncrashed found member
  completed := kept.outcome?_ne_aborted uncrashed found
  counters place entry entryFound := ((kept.get?_eq_some_iff found).mp entryFound).2.2
  total := by
    have total_eq := kept.drawn.total_eq_length kept.counted kept.distinct found
    refine ⟨?_, total_eq.trans kept.counted.total.symm, total_eq⟩
    rw [Summary.total_eq_sum, OrderedMap.values, List.map_map]
    rfl
  reports := kept.recorded.reports
  fatal := ⟨kept.nodup_failures, fun place e => mem_failures_iff⟩

variable [Client β σ] [OffsetStore ρ] {others : β → β → Prop}

omit [OffsetStore ρ] in
/-- A session that was started has taken note of nobody, and reads what was planned. -/
theorem blank_start {settings : Settings} {born now : Nat} {cancelled : Bool}
    {topics : Session.Topics} {client : β} {store : ρ} {begun : Scene β σ ρ}
    (started : Scene.start settings born cancelled topics now client store = (.ok (), begun)) :
    begun.session.crew.unnoted = [] ∧ begun.session.outcomes = .empty ∧
      begun.session.crew.reports = [] ∧
      begun.places = Session.plannedPlaces settings cancelled topics client := by
  obtain ⟨session, clientAfter, rfl, starts⟩ := Scene.exists_starts started
  cases starts with
  | cancelled claims told =>
      rcases Session.claim_eq_ok_iff.mp claims with ⟨-, -, rfl⟩
      have told : cancelled = true := told
      subst told
      exact ⟨rfl, rfl, rfl, rfl⟩
  | launched claims untold plans =>
      rcases Session.claim_eq_ok_iff.mp claims with ⟨-, -, rfl⟩
      have untold : cancelled = false := untold
      subst untold
      refine ⟨rfl, rfl, rfl, ?_⟩
      simp only [Session.new] at plans
      simp [Session.plannedPlaces, plans, Scene.places, Session.launch, Function.comp_def]

/-- However a run ends none of whose consumers crashes, its summary tells the truth about the
partitions that were planned. Brokers are relied on to list no partition of a topic twice. -/
theorem summary_truthful
    (listing : ∀ {client : β} {topic : String} {partitions : List Int},
      Client.partitions client topic = .ok partitions → partitions.Nodup)
    {settings : Settings} {born now : Nat} {cancelled : Bool} {topics : Session.Topics}
    {client : β} {store : ρ} {begun : Scene β σ ρ}
    (started : Scene.start settings born cancelled topics now client store = (.ok (), begun))
    (runs : ReflTransGen (Step others) { scene := begun } chronicle)
    (found : chronicle.scene.session.summary? = some summary)
    (uncrashed : ∀ consumer ∈ chronicle.scene.session.crew.consumers,
      consumer.ending? ≠ some .crashed) :
    chronicle.Truthful (Session.plannedPlaces settings cancelled topics client) summary := by
  have lists : Session.Lists fun _ : β => True := ⟨fun _ => listing, fun _ _ => trivial⟩
  have fresh := (Scene.fresh_of_lists lists trivial started).1
  obtain ⟨unnoted, outcomes, reports, places_eq⟩ := blank_start started
  have keptBegun : Kept { scene := begun } := {
    distinct := fresh.nodup
    counted := fresh.counted
    tallied := fresh.tallied
    drawn := fresh.drawn
    roster := roster_of_fresh fresh unnoted
    recorded := recorded_of_fresh outcomes reports
    reasoned := reasoned_of_fresh fresh }
  have truthful := (keptBegun.run runs).truthful found uncrashed
  have stays : chronicle.scene.places = begun.places :=
    Scene.places_eq_of_reaches (reaches_scene runs)
  rwa [stays, places_eq] at truthful

section Stranded

open Broker (Cursor LogBroker)
open Scene (Pick)
open Store (MemoryStore)

/-- Two partitions, the second of which fails, behind a channel with room for one event, in a
session that ends when it is idle. -/
def strandedStart : Except RunError Unit × Scene LogBroker Cursor MemoryStore :=
  Scene.start { capacity := 1, idleTimeout := some 10 } 0 false
    (OrderedMap.empty.insert "orders" { common := ⟨.oldest, none⟩ }) 0 Scene.ailingBroker {}

/-- The first consumer delivers one event and is not waited for when the session is drained. -/
def strandedSchedule : List Pick :=
  [.work 0, .work 1, .work 0, .work 0, .work 0, .work 1, .work 1, .supervise, .pass 10, .supervise,
    .pass 5010, .supervise]

/-- The failure that was taken note of and the consumer that was given up are told apart. -/
theorem summary_truthful_stranded :
    ∃ (chronicle : Chronicle LogBroker Cursor MemoryStore) (summary : Summary),
      strandedStart.2.play? strandedSchedule = some chronicle.scene ∧
        chronicle.scene.session.summary? = some summary ∧ summary.reason = .idleTimeout ∧
        chronicle.Truthful [⟨"orders", 0⟩, ⟨"orders", 1⟩] summary ∧
        (∀ ending, ¬chronicle.Joined ⟨"orders", 0⟩ ending) ∧
        summary.partitions.get? ⟨"orders", 0⟩ = some ⟨.aborted, ⟨1, some 0⟩⟩ ∧
        ∃ e, chronicle.Joined ⟨"orders", 1⟩ (.failed e) := by
  obtain ⟨scene, played⟩ : ∃ scene, strandedStart.2.play? strandedSchedule = some scene :=
    Option.isSome_iff_exists.mp (by decide +kernel)
  have facts : ∀ scene ∈ strandedStart.2.play? strandedSchedule,
      (∀ consumer ∈ scene.session.crew.consumers, consumer.ending? ≠ some .crashed) ∧
        scene.session.summary?.map (fun summary => (summary.reason,
          summary.partitions.get? ⟨"orders", 0⟩, summary.outcome? ⟨"orders", 1⟩)) =
            some (.idleTimeout, some ⟨.aborted, ⟨1, some 0⟩⟩,
              some (.failed "invalid broker client configuration: no such user")) := by
    decide +kernel
  obtain ⟨uncrashed, seen⟩ := facts scene played
  rcases Option.map_eq_some_iff.mp seen with ⟨summary, found, parts⟩
  simp only [Prod.mk.injEq] at parts
  obtain ⟨reason_eq, first, second⟩ := parts
  obtain ⟨chronicle, runs, rfl⟩ : ∃ chronicle : Chronicle LogBroker Cursor MemoryStore,
      ReflTransGen (Step Eq) { scene := strandedStart.2 } chronicle ∧ chronicle.scene = scene :=
    exists_reaches (Scene.warranted_of_play? Eq played)
  have started : strandedStart = (.ok (), strandedStart.2) := rfl
  have truthful := summary_truthful LogBroker.nodup_partitions started runs found uncrashed
  have planned : Session.plannedPlaces { capacity := 1, idleTimeout := some 10 } false
      (OrderedMap.empty.insert "orders" { common := ⟨.oldest, none⟩ }) Scene.ailingBroker =
        [⟨"orders", 0⟩, ⟨"orders", 1⟩] := by
    decide +kernel
  rw [planned] at truthful
  refine ⟨chronicle, summary, played, found, reason_eq, truthful, ?_, first, ?_⟩
  · apply (truthful.aborted ⟨"orders", 0⟩ List.mem_cons_self).mp
    rw [Summary.outcome?, first]
    rfl
  · obtain ⟨e, joined, -⟩ := (truthful.failed _ _).mp second
    exact ⟨e, joined⟩

end Stranded

end Chronicle

end TopicReplay
