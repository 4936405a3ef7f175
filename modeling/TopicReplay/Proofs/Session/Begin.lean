import TopicReplay.Proofs.Broker.Ordered
import TopicReplay.Proofs.OrderedMap
import TopicReplay.Proofs.Session.Scene

/-!
# How scenes begin

A session plans no partition twice, so that every partition has at most one consumer. In
the scene in which it was started its consumers have done nothing, and nothing has been
counted, delivered or committed.
-/

namespace TopicReplay

open Broker (Client OrderedClient)

namespace Session

variable {β σ : Type} [Client β σ]

theorem topic_eq_of_mem_planTopic {topic : String} {selection : Selection} {partitions : List Int}
    {plan : Planned} (member : plan ∈ planTopic topic selection partitions) :
    plan.place.topic = topic := by
  rcases List.mem_filterMap.mp member with ⟨partition, -, planned⟩
  rcases Option.map_eq_some_iff.mp planned with ⟨span, -, rfl⟩
  rfl

/-- A topic is planned partition by partition. -/
theorem nodup_planTopic (topic : String) (selection : Selection) {partitions : List Int}
    (nodup : partitions.Nodup) : ((planTopic topic selection partitions).map (·.place)).Nodup := by
  rw [planTopic, List.map_filterMap]
  apply List.Pairwise.filterMap _ _ nodup
  intro first second apart place firstAt other secondAt same
  simp only [Option.map_map, Option.map_eq_some_iff, Function.comp] at firstAt secondAt
  rcases firstAt with ⟨_, -, rfl⟩
  rcases secondAt with ⟨_, -, rfl⟩
  exact apart (TopicPartition.mk.inj same).2

section Plan

variable {settings : Settings} {client after : β}

/-- Brokers that list no partition twice, and go on to do so when a topic is created. -/
structure Lists (kept : β → Prop) : Prop where
  nodup {client : β} {topic : String} {partitions : List Int} :
    kept client → Client.partitions client topic = .ok partitions → partitions.Nodup
  create {client after : β} {topic : String} {spec : Broker.TopicSpec} :
    kept client → Client.create client topic spec = .ok after → kept after

theorem Lists.fetchPartitions {kept : β → Prop} (lists : Lists kept) {topic : String}
    {listed : Except Broker.Error (List Int)} (holds : kept client)
    (fetched : Session.fetchPartitions settings client topic = (listed, after)) :
    kept after ∧ ∀ {partitions}, listed = .ok partitions → partitions.Nodup := by
  unfold Session.fetchPartitions at fetched
  split at fetched
  · split at fetched
    · rename_i created
      rcases Prod.mk.inj fetched with ⟨rfl, rfl⟩
      have keptCreated := lists.create holds created
      exact ⟨keptCreated, lists.nodup keptCreated⟩
    · rcases Prod.mk.inj fetched with ⟨rfl, rfl⟩
      exact ⟨holds, nofun⟩
  · rcases Prod.mk.inj fetched with ⟨rfl, rfl⟩
    exact ⟨holds, lists.nodup holds⟩

/-- Planning keeps such a broker as it has to be, and plans no partition twice. -/
theorem Lists.planTopics {kept : β → Prop} (lists : Lists kept)
    {topics : List (String × Selection)} {planned : Except Broker.Error (List Planned)}
    (holds : kept client) (nodup : (topics.map (·.1)).Nodup)
    (done : Session.planTopics settings topics client = (planned, after)) :
    kept after ∧ ∀ {plans}, planned = .ok plans →
      (plans.map (·.place)).Nodup ∧ ∀ plan ∈ plans, plan.place.topic ∈ topics.map (·.1) := by
  induction topics generalizing client after planned with
  | nil =>
      rcases Prod.mk.inj done with ⟨rfl, rfl⟩
      refine ⟨holds, fun planned_eq => ?_⟩
      cases planned_eq
      simp
  | cons first rest ih =>
      rcases first with ⟨topic, selection⟩
      rcases List.nodup_cons.mp nodup with ⟨fresh, restNodup⟩
      rw [Session.planTopics] at done
      rcases fetched : Session.fetchPartitions settings client topic with ⟨listed, fetchedClient⟩
      have fetch := lists.fetchPartitions holds fetched
      rw [fetched] at done
      cases listed with
      | error e =>
          rcases Prod.mk.inj done with ⟨rfl, rfl⟩
          exact ⟨fetch.1, nofun⟩
      | ok partitions =>
          rcases later : Session.planTopics settings rest fetchedClient with
            ⟨restPlanned, restClient⟩
          simp only [later] at done
          rcases Prod.mk.inj done with ⟨rfl, rfl⟩
          obtain ⟨restKept, restPlans⟩ := ih fetch.1 restNodup later
          refine ⟨restKept, fun {plans} planned_eq => ?_⟩
          cases restPlanned with
          | error e => cases planned_eq
          | ok others =>
              cases planned_eq
              obtain ⟨othersNodup, othersTopics⟩ := restPlans rfl
              constructor
              · rw [List.map_append]
                refine List.nodup_append.mpr
                  ⟨nodup_planTopic topic selection (fetch.2 rfl), othersNodup, ?_⟩
                intro place here other there same
                rcases List.mem_map.mp here with ⟨plan, planMember, rfl⟩
                rcases List.mem_map.mp there with ⟨otherPlan, otherMember, rfl⟩
                have topic_eq := topic_eq_of_mem_planTopic planMember
                have member := othersTopics otherPlan otherMember
                rw [← same, topic_eq] at member
                exact fresh member
              · intro plan member
                rcases List.mem_append.mp member with here | there
                · rw [topic_eq_of_mem_planTopic here]
                  exact List.mem_cons_self
                · exact List.mem_cons_of_mem _ (othersTopics plan there)

theorem lists_sound [OrderedClient β σ] : Lists (OrderedClient.Sound : β → Prop) where
  nodup := OrderedClient.nodup_partitions
  create := OrderedClient.sound_create

end Plan

/-- What comes of starting a session. -/
inductive Starts (session : Session σ) (client : β) (topics : Topics) (now : Nat) :
    Except RunError Unit → Session σ → β → Prop where
  | refused {e : RunError} (refuses : session.claim topics = .error e) :
      Starts session client topics now (.error e) session client
  | cancelled {claimed : Session σ} (claims : session.claim topics = .ok claimed)
      (told : claimed.cancelled = true) :
      Starts session client topics now (.ok ()) claimed.endEarly client
  | unplanned {claimed : Session σ} {e : Broker.Error} {after : β}
      (claims : session.claim topics = .ok claimed)
      (plans : planTopics claimed.settings topics.toList client = (.error e, after)) :
      Starts session client topics now (.error (.broker e)) claimed.fail after
  | launched {claimed : Session σ} {planned : List Planned} {after : β}
      (claims : session.claim topics = .ok claimed) (untold : claimed.cancelled = false)
      (plans : planTopics claimed.settings topics.toList client = (.ok planned, after)) :
      Starts session client topics now (.ok ()) (claimed.launch planned now) after

theorem starts_of_start {session after : Session σ} {client clientAfter : β} {topics : Topics}
    {now : Nat} {result : Except RunError Unit}
    (started : session.start client topics now = (result, after, clientAfter)) :
    session.Starts client topics now result after clientAfter := by
  unfold start at started
  split at started
  · rename_i refuses
    cases started
    exact .refused refuses
  · rename_i claimed claims
    split at started
    · rename_i told
      cases started
      exact .cancelled claims told
    · rename_i untold
      split at started
      · rename_i plans
        cases started
        exact .unplanned claims plans
      · rename_i plans
        cases started
        exact .launched claims (Bool.eq_false_iff.mpr untold) plans

omit [Client β σ] in
theorem claim_eq_ok_iff {session claimed : Session σ} {topics : Topics} :
    session.claim topics = .ok claimed ↔
      topics.isEmpty = false ∧ session.started = false ∧
        claimed = { session with started := true, lifecycle := .fetchingMetadata } := by
  unfold claim
  cases topics.isEmpty with
  | true => simp
  | false => cases session.started <;> simp [eq_comm]

end Session

namespace Scene

variable {β σ ρ : Type} [Client β σ]

/-- Starts a new session, which may have been asked to stop before. -/
def start (settings : Settings) (born : Nat) (cancelled : Bool) (topics : Session.Topics)
    (now : Nat) (client : β) (store : ρ) : Except RunError Unit × Scene β σ ρ :=
  let (result, session, client) :=
    Session.start { Session.new settings born with cancelled } client topics now
  (result, { now, client, store, session })

section Start

variable {settings : Settings} {born now : Nat} {cancelled : Bool} {topics : Session.Topics}
  {client : β} {store : ρ} {result : Except RunError Unit} {scene : Scene β σ ρ}

theorem store_start
    (started : start settings born cancelled topics now client store = (result, scene)) :
    scene.store = store := by
  unfold start at started
  rcases Prod.mk.inj started with ⟨-, rfl⟩
  rfl

/-- What comes of starting a session is all that is new in the scene. -/
theorem exists_starts
    (started : start settings born cancelled topics now client store = (result, scene)) :
    ∃ session after, { now, client := after, store, session } = scene ∧
      { Session.new settings born with cancelled }.Starts client topics now result session
        after := by
  rcases starting : Session.start { Session.new settings born with cancelled } client topics now
    with ⟨startResult, session, after⟩
  rw [start, starting] at started
  rcases Prod.mk.inj started with ⟨rfl, scene_eq⟩
  exact ⟨session, after, scene_eq, Session.starts_of_start starting⟩

end Start

/-- A scene in which nothing has happened since the session was started. -/
structure Fresh (settings : Settings) (scene : Scene β σ ρ) : Prop where
  settings_eq : scene.session.settings = settings
  sent : scene.sent = []
  received : scene.received = []
  channel : scene.session.crew.channel = { capacity := settings.capacity }
  total : scene.session.crew.stats.total = 0
  counters : ∀ place, scene.session.crew.stats.counters place = {}
  progress : ∀ place, scene.session.next? place = none
  stop : scene.session.crew.stop = false
  consumers : ∀ consumer ∈ scene.session.crew.consumers,
    consumer.environment = settings.environment ∧ consumer.phase = .resolving
  nodup : scene.places.Nodup
  summary : ∀ summary, scene.session.summary? = some summary →
    scene.session.crew.consumers = [] ∧ summary.partitions = .empty
  undrained : ∀ reason deadline, scene.session.supervisor ≠ .draining reason deadline

omit [Client β σ] in
/-- A session without consumers is fresh. -/
theorem fresh_of_idle {settings : Settings} {session : Session σ} {born now : Nat} {client : β}
    {store : ρ} (settings_eq : session.settings = settings) (progress : session.progress = .empty)
    (crew : session.crew = (Session.new settings born : Session σ).crew)
    (summary : ∀ summary, session.summary? = some summary → summary.partitions = .empty)
    (undrained : ∀ reason deadline, session.supervisor ≠ .draining reason deadline) :
    Fresh settings ({ now, client, store, session } : Scene β σ ρ) where
  settings_eq := settings_eq
  sent := rfl
  received := rfl
  channel := by rw [crew]; rfl
  total := by rw [crew]; rfl
  counters place := by rw [crew]; rfl
  progress place := by rw [Session.next?, progress]; rfl
  stop := by rw [crew]; rfl
  consumers consumer member := by simp [crew, Session.new] at member
  nodup := by simp [places, crew, Session.new]
  summary drawn found := ⟨by simp [crew, Session.new], summary drawn found⟩
  undrained := undrained

/-- A session that was started, or could not be, is fresh. -/
theorem fresh_of_lists {kept : β → Prop} (lists : Session.Lists kept) {settings : Settings}
    {born now : Nat} {cancelled : Bool} {topics : Session.Topics} {client : β} {store : ρ}
    {result : Except RunError Unit} {scene : Scene β σ ρ} (holds : kept client)
    (started : start settings born cancelled topics now client store = (result, scene)) :
    scene.Fresh settings ∧ kept scene.client := by
  obtain ⟨session, after, rfl, starts⟩ := exists_starts started
  cases starts with
  | refused refuses => exact ⟨fresh_of_idle rfl rfl rfl nofun nofun, holds⟩
  | cancelled claims told =>
      rcases Session.claim_eq_ok_iff.mp claims with ⟨-, -, rfl⟩
      refine ⟨fresh_of_idle rfl rfl rfl (fun summary found => ?_) nofun, holds⟩
      cases found
      rfl
  | unplanned claims plans =>
      rcases Session.claim_eq_ok_iff.mp claims with ⟨-, -, rfl⟩
      exact ⟨fresh_of_idle rfl rfl rfl nofun nofun,
        (lists.planTopics holds topics.nodup_keys plans).1⟩
  | @launched claimed planned after claims untold plans =>
      rcases Session.claim_eq_ok_iff.mp claims with ⟨-, -, rfl⟩
      obtain ⟨keptAfter, plansOk⟩ := lists.planTopics holds topics.nodup_keys plans
      refine ⟨?_, keptAfter⟩
      constructor
      · rfl
      · rfl
      · rfl
      · rfl
      · rfl
      · exact fun place => rfl
      · exact fun place => rfl
      · rfl
      · intro consumer member
        rcases List.mem_map.mp member with ⟨plan, -, rfl⟩
        exact ⟨rfl, rfl⟩
      · have nodup := (plansOk rfl).1
        simpa [places, Session.launch, Function.comp_def] using nodup
      · nofun
      · nofun

/-- The broker of such a session is as sound as it was. -/
theorem fresh_start [OrderedClient β σ] {settings : Settings} {born now : Nat} {cancelled : Bool}
    {topics : Session.Topics} {client : β} {store : ρ} {result : Except RunError Unit}
    {scene : Scene β σ ρ} (sound : OrderedClient.Sound client)
    (started : start settings born cancelled topics now client store = (result, scene)) :
    scene.Fresh settings ∧ OrderedClient.Sound scene.client :=
  fresh_of_lists Session.lists_sound sound started

end Scene

end TopicReplay
