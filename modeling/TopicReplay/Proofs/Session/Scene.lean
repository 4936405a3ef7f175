import Mathlib.Logic.Relation
import TopicReplay.Proofs.Session.Progress
import TopicReplay.Proofs.Session.Supervised
import TopicReplay.Proofs.Store.Lawful
import TopicReplay.Replay
import TopicReplay.Session.Start

/-!
# Scenes

A scene is a session together with its broker, its store, the clock and the events that
have passed through its channel. It goes on in single steps: of one consumer, of the
supervisor, of the reader, who receives events and may commit those that were received,
and of the clock and of others who have access to the broker. Which consumer is next, and
whether it is a consumer at all, is left open. What is proved of all steps therefore holds
for every order in which they can be taken.
-/

namespace TopicReplay

open Broker (Client)
open Store (OffsetStore)

/-- The events of one partition. -/
def eventsOf (place : TopicPartition) (events : List Event) : List Event :=
  events.filter (·.place = place)

section EventsOf

variable {place : TopicPartition} {events : List Event} {event : Event}

@[simp]
theorem eventsOf_nil : eventsOf place [] = [] := rfl

@[simp]
theorem eventsOf_append (events later : List Event) :
    eventsOf place (events ++ later) = eventsOf place events ++ eventsOf place later :=
  List.filter_append _ _

@[simp]
theorem mem_eventsOf_iff :
    event ∈ eventsOf place events ↔ event ∈ events ∧ event.place = place := by
  simp [eventsOf]

theorem eventsOf_singleton_self (event : Event) : eventsOf event.place [event] = [event] := by
  simp [eventsOf]

theorem eventsOf_singleton_of_ne (apart : event.place ≠ place) : eventsOf place [event] = [] := by
  simp [eventsOf, apart]

theorem eventsOf_eq_nil_iff :
    eventsOf place events = [] ↔ ∀ event ∈ events, event.place ≠ place := by
  simp [eventsOf]

end EventsOf

/-- A session and everything around it. -/
structure Scene (β σ ρ : Type) where
  now : Nat
  client : β
  store : ρ
  session : Session σ
  /-- The events that were put into the channel, in order. -/
  sent : List Event := []
  /-- The events that were received from the channel, in order. -/
  received : List Event := []
  /-- The events that the reader has committed, also where storing has failed, in order. -/
  committed : List Event := []

namespace Scene

variable {β σ ρ : Type}

/-- The places of the partitions that are read. -/
def places (scene : Scene β σ ρ) : List TopicPartition :=
  scene.session.crew.consumers.map (·.place)

/-- The scene without the event at the front of the channel, which is received. -/
def receive? (scene : Scene β σ ρ) : Option (Scene β σ ρ) :=
  (Replay.receive? scene.session).map fun (event, session) =>
    { scene with session, received := scene.received ++ [event] }

theorem receive?_eq_some_iff {scene after : Scene β σ ρ} :
    scene.receive? = some after ↔
      ∃ event rest, scene.session.crew.channel.buffer = event :: rest ∧
        after = { scene with
          session := { scene.session with
            crew := { scene.session.crew with
              channel := { scene.session.crew.channel with buffer := rest } } }
          received := scene.received ++ [event] } := by
  unfold receive? Replay.receive? Channel.pop?
  cases scene.session.crew.channel.buffer with
  | nil => simp
  | cons event rest =>
      simp only [Option.map_some, Option.some.injEq, List.cons.injEq]
      constructor
      · rintro rfl
        exact ⟨event, rest, ⟨rfl, rfl⟩, rfl⟩
      · rintro ⟨_, _, ⟨rfl, rfl⟩, rfl⟩
        rfl

/-- The scene in which an event was committed. -/
def commit [OffsetStore ρ] (scene : Scene β σ ρ) (stamp : Instant) (event : Event) :
    Scene β σ ρ :=
  let committed := scene.committed ++ [event]
  match scene.session.commit scene.store stamp event.place event.offset with
  | (session, .ok store) => { scene with session, store, committed }
  | (session, .error _) => { scene with session, committed }

section Commit

variable [OffsetStore ρ] (scene : Scene β σ ρ) (stamp : Instant) (event : Event)

/-- The scene after a commit, without a look at whether storing failed. -/
theorem commit_eq :
    ∃ store, scene.commit stamp event =
      { scene with
        session := scene.session.advance event.place event.offset
        store
        committed := scene.committed ++ [event] } := by
  unfold commit Session.commit
  split
  · rename_i commits
    rcases Prod.mk.inj commits with ⟨rfl, -⟩
    exact ⟨_, rfl⟩
  · rename_i commits
    rcases Prod.mk.inj commits with ⟨rfl, -⟩
    exact ⟨scene.store, rfl⟩

@[simp]
theorem session_commit :
    (scene.commit stamp event).session = scene.session.advance event.place event.offset := by
  rcases scene.commit_eq stamp event with ⟨store, commit_eq⟩
  rw [commit_eq]

@[simp]
theorem client_commit : (scene.commit stamp event).client = scene.client := by
  rcases scene.commit_eq stamp event with ⟨store, commit_eq⟩
  rw [commit_eq]

@[simp]
theorem now_commit : (scene.commit stamp event).now = scene.now := by
  rcases scene.commit_eq stamp event with ⟨store, commit_eq⟩
  rw [commit_eq]

@[simp]
theorem sent_commit : (scene.commit stamp event).sent = scene.sent := by
  rcases scene.commit_eq stamp event with ⟨store, commit_eq⟩
  rw [commit_eq]

@[simp]
theorem received_commit : (scene.commit stamp event).received = scene.received := by
  rcases scene.commit_eq stamp event with ⟨store, commit_eq⟩
  rw [commit_eq]

@[simp]
theorem committed_commit : (scene.commit stamp event).committed = scene.committed ++ [event] := by
  rcases scene.commit_eq stamp event with ⟨store, commit_eq⟩
  rw [commit_eq]

end Commit

section Steps

variable [Client β σ] [OffsetStore ρ]

/-- The scene after a step of one consumer. -/
def workAt? (scene : Scene β σ ρ) (index : Nat) : Option (Scene β σ ρ) :=
  (scene.session.workAt? scene.client scene.store scene.now index).map fun (session, client) =>
    { scene with
      session
      client
      sent := scene.sent ++
        session.crew.channel.buffer.drop scene.session.crew.channel.buffer.length }

/-- What can happen beside the reader of the events, when `others` may change the broker. -/
inductive Turn (others : β → β → Prop) (scene : Scene β σ ρ) : Scene β σ ρ → Prop where
  | work {index : Nat} {after : Scene β σ ρ} (works : scene.workAt? index = some after) :
      Turn others scene after
  | supervise {session : Session σ} {client : β}
      (supervised : scene.session.Supervised scene.client scene.now session client) :
      Turn others scene { scene with session, client }
  | pass {now : Nat} (later : scene.now ≤ now) : Turn others scene { scene with now }
  | cancel : Turn others scene { scene with session := scene.session.cancel }
  | change {client : β} (changed : others scene.client client) :
      Turn others scene { scene with client }

/-- What can happen in a scene. The reader may commit what it has received, whether it
has been committed before or not. -/
inductive Step (others : β → β → Prop) (scene : Scene β σ ρ) : Scene β σ ρ → Prop where
  | turn {after : Scene β σ ρ} (turn : Turn others scene after) : Step others scene after
  | receive {after : Scene β σ ρ} (receives : scene.receive? = some after) :
      Step others scene after
  | hangUp : Step others scene { scene with session := scene.session.hangUp }
  | commit (stamp : Instant) {event : Event} (member : event ∈ scene.received) :
      Step others scene (scene.commit stamp event)

/-- A consumer at its place in the crew with what comes of its next step. -/
structure Works (scene : Scene β σ ρ) (index : Nat) (consumer : Consumer σ)
    (outcome : Consumer.Outcome β σ) : Prop where
  found : scene.session.crew.consumers[index]? = some consumer
  moves : Consumer.Move (scene.session.crew.around scene.client scene.store scene.now) consumer
    outcome

/-- The scene after a consumer has made a step. -/
def work (scene : Scene β σ ρ) (index : Nat) (consumer : Consumer σ)
    (outcome : Consumer.Outcome β σ) : Scene β σ ρ :=
  { scene with
    session := { scene.session with
      crew := (scene.session.crew.replace index outcome.consumer).absorb scene.now consumer.place
        outcome.emission }
    client := outcome.client
    sent := scene.sent ++ outcome.emission.events }

section Work

omit [Client β σ] [OffsetStore ρ]

variable (scene : Scene β σ ρ) (index : Nat) (consumer : Consumer σ)
  (outcome : Consumer.Outcome β σ)

@[simp]
theorem consumers_work : (scene.work index consumer outcome).session.crew.consumers =
    scene.session.crew.consumers.set index outcome.consumer := by
  simp [work]

@[simp]
theorem stop_work :
    (scene.work index consumer outcome).session.crew.stop = scene.session.crew.stop := by
  simp [work]

@[simp]
theorem receiving_work : (scene.work index consumer outcome).session.crew.channel.receiving =
    scene.session.crew.channel.receiving := by
  simp [work]

@[simp]
theorem capacity_work : (scene.work index consumer outcome).session.crew.channel.capacity =
    scene.session.crew.channel.capacity := by
  simp [work]

@[simp]
theorem buffer_work : (scene.work index consumer outcome).session.crew.channel.buffer =
    scene.session.crew.channel.buffer ++ outcome.emission.events := by
  simp [work]

@[simp]
theorem sent_work :
    (scene.work index consumer outcome).sent = scene.sent ++ outcome.emission.events := rfl

@[simp]
theorem client_work : (scene.work index consumer outcome).client = outcome.client := rfl

@[simp]
theorem store_work : (scene.work index consumer outcome).store = scene.store := rfl

@[simp]
theorem received_work : (scene.work index consumer outcome).received = scene.received := rfl

end Work

variable {others : β → β → Prop} {scene after : Scene β σ ρ} {index : Nat}

/-- A consumer that has made a step is in its place. -/
theorem Works.getElem?_work {consumer : Consumer σ} {outcome : Consumer.Outcome β σ}
    (works : scene.Works index consumer outcome) :
    (scene.work index consumer outcome).session.crew.consumers[index]? =
      some outcome.consumer := by
  have inside := (List.getElem?_eq_some_iff.mp works.found).choose
  simp [List.getElem?_set_self inside]

theorem workAt?_eq_some_iff :
    scene.workAt? index = some after ↔
      ∃ consumer outcome, scene.Works index consumer outcome ∧
        scene.work index consumer outcome = after := by
  simp only [workAt?, Session.workAt?, Option.map_map, Option.map_eq_some_iff, Prod.exists,
    Crew.stepAt?_eq_some_iff]
  constructor
  · rintro ⟨crew, client, ⟨consumer, outcome, found, moves, rfl, rfl⟩, rfl⟩
    exact ⟨consumer, outcome, ⟨found, moves⟩, by simp [work]⟩
  · rintro ⟨consumer, outcome, ⟨found, moves⟩, rfl⟩
    exact ⟨_, _, ⟨consumer, outcome, found, moves, rfl, rfl⟩, by simp [work]⟩

theorem step?_of_idle {consumer : Consumer σ}
    (found : scene.session.crew.consumers[index]? = some consumer)
    (idle : scene.workAt? index = none) :
    consumer.step? (scene.session.crew.around scene.client scene.store scene.now) = none := by
  cases steps : consumer.step? (scene.session.crew.around scene.client scene.store scene.now) with
  | none => rfl
  | some outcome =>
      have worked := workAt?_eq_some_iff.mpr
        ⟨consumer, outcome, ⟨found, Consumer.move_of_step? steps⟩, rfl⟩
      rw [idle] at worked
      cases worked

/-- What most steps leave alone: the settings, the events that were sent, what was counted
of them, and the consumers but for those that the supervisor gives up. -/
structure Kept (scene after : Scene β σ ρ) : Prop where
  settings : after.session.settings = scene.session.settings
  sent : after.sent = scene.sent
  stats : after.session.crew.stats = scene.session.crew.stats
  stop : scene.session.crew.stop = true → after.session.crew.stop = true
  receiving : after.session.crew.channel.receiving = true →
    scene.session.crew.channel.receiving = true
  consumers : after.session.crew.consumers = scene.session.crew.consumers ∨
    after.session.crew.consumers = scene.session.crew.consumers.map Crew.retire ∧
      ∃ reason deadline, scene.session.supervisor = .draining reason deadline

omit [Client β σ] [OffsetStore ρ] in
/-- A consumer after such a step is one that there was, or one that was given up. -/
theorem Kept.mem_or_aborted (kept : scene.Kept after) {consumer : Consumer σ}
    (member : consumer ∈ after.session.crew.consumers) :
    consumer ∈ scene.session.crew.consumers ∨
      (∃ old ∈ scene.session.crew.consumers, old.enter (.ended .aborted) = consumer) ∧
        ∃ reason deadline, scene.session.supervisor = .draining reason deadline := by
  rcases kept.consumers with same | ⟨retired, draining⟩
  · exact .inl (same ▸ member)
  · rw [retired] at member
    rcases List.mem_map.mp member with ⟨old, oldMember, rfl⟩
    unfold Crew.retire
    split
    · exact .inl oldMember
    · exact .inr ⟨⟨old, oldMember, rfl⟩, draining⟩

omit [Client β σ] [OffsetStore ρ] in
theorem Kept.untold (kept : scene.Kept after) (untold : after.session.crew.stop = false) :
    scene.session.crew.stop = false := by
  cases told : scene.session.crew.stop with
  | false => rfl
  | true => exact (kept.stop told).symm.trans untold

/-- What happens beside the reader leaves to the reader what is stored, received, committed and
noted as progress. -/
structure Unread (scene after : Scene β σ ρ) : Prop where
  settings : after.session.settings = scene.session.settings
  progress : after.session.progress = scene.session.progress
  store : after.store = scene.store
  received : after.received = scene.received
  committed : after.committed = scene.committed

theorem Turn.unread (turn : Turn others scene after) : scene.Unread after := by
  cases turn with
  | work worked =>
      rcases workAt?_eq_some_iff.mp worked with ⟨consumer, outcome, -, rfl⟩
      exact ⟨rfl, rfl, rfl, rfl, rfl⟩
  | supervise supervised =>
      exact ⟨supervised.kept.settings, supervised.kept.progress, rfl, rfl, rfl⟩
  | pass later => exact ⟨rfl, rfl, rfl, rfl, rfl⟩
  | cancel => exact ⟨rfl, rfl, rfl, rfl, rfl⟩
  | change changed => exact ⟨rfl, rfl, rfl, rfl, rfl⟩

/-- Only the reader takes the receiver away. -/
theorem Turn.receiving_eq (turn : Turn others scene after) :
    after.session.crew.channel.receiving = scene.session.crew.channel.receiving := by
  cases turn with
  | work worked =>
      rcases workAt?_eq_some_iff.mp worked with ⟨consumer, outcome, -, rfl⟩
      exact Crew.receiving_absorb _ _ _ _
  | supervise supervised => rw [supervised.kept.channel]
  | pass later => rfl
  | cancel => rfl
  | change changed => rfl

/-- A step is that of a consumer, or it leaves alone what most steps do. -/
theorem Turn.work_or_kept (turn : Turn others scene after) :
    (∃ index consumer outcome, scene.Works index consumer outcome ∧
      scene.work index consumer outcome = after) ∨ scene.Kept after := by
  cases turn with
  | @work index _ works => exact .inl ⟨index, workAt?_eq_some_iff.mp works⟩
  | supervise supervised =>
      have kept := supervised.kept
      refine .inr ⟨kept.settings, rfl, kept.stats, kept.stop, ?_, kept.consumers⟩
      rw [kept.channel]
      exact id
  | pass later => exact .inr ⟨rfl, rfl, rfl, id, id, .inl rfl⟩
  | cancel => exact .inr ⟨rfl, rfl, rfl, id, id, .inl rfl⟩
  | change changed => exact .inr ⟨rfl, rfl, rfl, id, id, .inl rfl⟩

theorem Step.work_or_kept (step : Step others scene after) :
    (∃ index consumer outcome, scene.Works index consumer outcome ∧
      scene.work index consumer outcome = after) ∨ scene.Kept after := by
  cases step with
  | turn turn => exact turn.work_or_kept
  | receive receives =>
      rcases receive?_eq_some_iff.mp receives with ⟨event, rest, -, rfl⟩
      exact .inr ⟨rfl, rfl, rfl, id, id, .inl rfl⟩
  | hangUp => exact .inr ⟨rfl, rfl, rfl, id, nofun, .inl rfl⟩
  | commit stamp member =>
      exact .inr ⟨by simp, by simp, by simp, by simp, by simp, .inl (by simp)⟩

/-- What was committed stays so. -/
theorem Step.committed_prefix (step : Step others scene after) :
    scene.committed <+: after.committed := by
  cases step with
  | turn turn => exact ⟨[], by rw [List.append_nil, turn.unread.committed]⟩
  | receive receives =>
      rcases receive?_eq_some_iff.mp receives with ⟨event, rest, -, rfl⟩
      exact List.prefix_rfl
  | hangUp => exact List.prefix_rfl
  | commit stamp member =>
      rw [committed_commit]
      exact List.prefix_append _ _

/-! ## Schedules -/

/-- A choice of what happens next. -/
inductive Pick where
  | work (index : Nat)
  | supervise
  | pass (now : Nat)
  /-- The reader is next. -/
  | read

/-- What is chosen to happen beside the reader, if it can. -/
def turn? (scene : Scene β σ ρ) : Pick → Option (Scene β σ ρ)
  | .work index => scene.workAt? index
  | .supervise =>
      (scene.session.supervise? scene.client scene.now).map fun (session, client) =>
        { scene with session, client }
  | .pass now => if scene.now ≤ now then some { scene with now } else none
  | .read => none

/-- The scene at the end of a schedule in which the reader only receives. -/
def play? (scene : Scene β σ ρ) : List Pick → Option (Scene β σ ρ)
  | [] => some scene
  | .read :: rest => scene.receive?.bind fun after => after.play? rest
  | pick :: rest => (scene.turn? pick).bind fun after => after.play? rest

variable (others)

theorem turn_of_turn? {pick : Pick} (turned : scene.turn? pick = some after) :
    Turn others scene after := by
  cases pick with
  | work index => exact .work turned
  | supervise =>
      rcases Option.map_eq_some_iff.mp turned with ⟨⟨session, client⟩, supervised, rfl⟩
      exact .supervise (Session.supervised_of_supervise? supervised)
  | pass now =>
      rw [turn?] at turned
      split at turned
      · rename_i later
        cases turned
        exact .pass later
      · cases turned
  | read => cases turned

omit others in
/-- What can be played is a run of whatever relation all that can be picked belongs to. -/
theorem reflTransGen_of_play? {related : Scene β σ ρ → Scene β σ ρ → Prop}
    (turns : ∀ {scene after pick}, scene.turn? pick = some after → related scene after)
    (receives : ∀ {scene after}, scene.receive? = some after → related scene after)
    {picks : List Pick} (played : scene.play? picks = some after) :
    Relation.ReflTransGen related scene after := by
  induction picks generalizing scene with
  | nil =>
      cases played
      exact .refl
  | cons pick rest ih =>
      cases pick with
      | read =>
          rcases Option.bind_eq_some_iff.mp played with ⟨next, received, later⟩
          exact .head (receives received) (ih later)
      | work index =>
          rcases Option.bind_eq_some_iff.mp played with ⟨next, turned, later⟩
          exact .head (turns turned) (ih later)
      | supervise =>
          rcases Option.bind_eq_some_iff.mp played with ⟨next, turned, later⟩
          exact .head (turns turned) (ih later)
      | pass now =>
          rcases Option.bind_eq_some_iff.mp played with ⟨next, turned, later⟩
          exact .head (turns turned) (ih later)

/-- A schedule that can be played is one of the orders in which steps can be taken. -/
theorem reaches_of_play? {picks : List Pick} (played : scene.play? picks = some after) :
    Relation.ReflTransGen (Step others) scene after :=
  reflTransGen_of_play? (fun turned => .turn (turn_of_turn? others turned))
    (fun received => .receive received) played

end Steps

end Scene

end TopicReplay
