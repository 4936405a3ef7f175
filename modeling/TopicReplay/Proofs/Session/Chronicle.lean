import TopicReplay.Proofs.Session.Summary

/-!
# Chronicles

A chronicle is a scene together with two histories that no part of it keeps: the errors
that consumers met and got over, and the consumers that the supervisor took note of. Both
only watch. Whatever happens in a scene can be chronicled, so that what is said of all runs
of chronicles is said of all runs of scenes, as long as their supervisors tell consumers to
stop only for a reason that there is.
-/

namespace TopicReplay

open Broker (Client)
open Relation (ReflTransGen)
open Store (OffsetStore)

namespace Consumer

variable {β σ ρ : Type} [Client β σ] [OffsetStore ρ] {around : Surroundings β ρ}
  {consumer : Consumer σ} {outcome : Outcome β σ}

/-- The error that may pass which a consumer reads next, if it reads one. -/
def passing? (around : Surroundings β ρ) (consumer : Consumer σ) : Option Broker.Error :=
  match consumer.phase with
  | .reading _ stream =>
      if around.stop then none
      else
        match (Client.poll around.client stream).1 with
        | .fault e => if e.isRetryable then some e else none
        | _ => none
  | _ => none

/-- A consumer reports exactly the errors that may pass which it reads. -/
theorem Move.reports_eq (move : Move around consumer outcome) :
    outcome.emission.reports = (consumer.passing? around).toList.map .broker := by
  cases move with
  | cancelled going told =>
      have silent : consumer.passing? around = none := by
        unfold passing?
        cases consumer.phase <;> simp [told]
      rw [silent]
      rfl
  | resolved untold phase resolves open_ => simp [passing?, phase, Emission.reports]
  | crossed untold phase resolves crossed => simp [passing?, phase, Emission.reports]
  | unresolved untold phase resolves => simp [passing?, phase, Emission.reports]
  | crashed untold phase resolves => simp [passing?, phase, Emission.reports]
  | attached untold phase attaches => simp [passing?, phase, Emission.reports]
  | unattached untold phase attaches => simp [passing?, phase, Emission.reports]
  | ended untold phase polled => simp [passing?, phase, untold, polled, Emission.reports]
  | rested untold phase polled passing =>
      simp [passing?, phase, untold, polled, passing, Emission.reports]
  | failed untold phase polled lasting =>
      simp [passing?, phase, untold, polled, lasting, Emission.reports]
  | skipped untold phase polled before => simp [passing?, phase, untold, polled, Emission.reports]
  | took untold phase polled onward => simp [passing?, phase, untold, polled, Emission.reports]
  | woke untold phase due => simp [passing?, phase, Emission.reports]
  | unheard untold phase deaf => simp [passing?, phase, Emission.reports]
  | delivered untold phase heard room => simp [passing?, phase, Emission.reports]
  | stopped untold phase heard room => simp [passing?, phase, Emission.reports]

end Consumer

namespace Scene

variable {β σ ρ : Type}

/-! ## What happens aside -/

section Aside

variable [OffsetStore ρ]

/-- What can happen in a scene beside the steps of consumers and of the supervisor. -/
inductive Aside (others : β → β → Prop) (scene : Scene β σ ρ) : Scene β σ ρ → Prop where
  | pass {now : Nat} (later : scene.now ≤ now) : Aside others scene { scene with now }
  | cancel : Aside others scene { scene with session := scene.session.cancel }
  | change {client : β} (changed : others scene.client client) :
      Aside others scene { scene with client }
  | receive {after : Scene β σ ρ} (receives : scene.receive? = some after) :
      Aside others scene after
  | hangUp : Aside others scene { scene with session := scene.session.hangUp }
  | commit (stamp : Instant) {event : Event} (member : event ∈ scene.received) :
      Aside others scene (scene.commit stamp event)

/-- What no bystander changes. A session that was asked to stop stays so, and a receiver
that is gone does not come back. -/
structure Unmoved (scene after : Scene β σ ρ) : Prop where
  settings : after.session.settings = scene.session.settings
  lifecycle : after.session.lifecycle = scene.session.lifecycle
  started : after.session.started = scene.session.started
  supervisor : after.session.supervisor = scene.session.supervisor
  outcomes : after.session.outcomes = scene.session.outcomes
  consumers : after.session.crew.consumers = scene.session.crew.consumers
  unnoted : after.session.crew.unnoted = scene.session.crew.unnoted
  stats : after.session.crew.stats = scene.session.crew.stats
  reports : after.session.crew.reports = scene.session.crew.reports
  stop : after.session.crew.stop = scene.session.crew.stop
  sent : after.sent = scene.sent
  cancelled : scene.session.cancelled = true → after.session.cancelled = true
  receiving : after.session.crew.channel.receiving = true →
    scene.session.crew.channel.receiving = true

variable {others : β → β → Prop} {scene after : Scene β σ ρ}

theorem Aside.unmoved (aside : Aside others scene after) : scene.Unmoved after := by
  cases aside with
  | pass later => exact ⟨rfl, rfl, rfl, rfl, rfl, rfl, rfl, rfl, rfl, rfl, rfl, id, id⟩
  | cancel => exact ⟨rfl, rfl, rfl, rfl, rfl, rfl, rfl, rfl, rfl, rfl, rfl, fun _ => rfl, id⟩
  | change changed => exact ⟨rfl, rfl, rfl, rfl, rfl, rfl, rfl, rfl, rfl, rfl, rfl, id, id⟩
  | receive receives =>
      rcases receive?_eq_some_iff.mp receives with ⟨event, rest, -, rfl⟩
      exact ⟨rfl, rfl, rfl, rfl, rfl, rfl, rfl, rfl, rfl, rfl, rfl, id, id⟩
  | hangUp => exact ⟨rfl, rfl, rfl, rfl, rfl, rfl, rfl, rfl, rfl, rfl, rfl, id, nofun⟩
  | commit stamp member =>
      rcases scene.commit_eq stamp _ with ⟨store, commit_eq⟩
      rw [commit_eq]
      exact ⟨rfl, rfl, rfl, rfl, rfl, rfl, rfl, rfl, rfl, rfl, rfl, id, id⟩

variable [Client β σ]

theorem Aside.step (aside : Aside others scene after) : Step others scene after := by
  cases aside with
  | pass later => exact .turn (.pass later)
  | cancel => exact .turn .cancel
  | change changed => exact .turn (.change changed)
  | receive receives => exact .receive receives
  | hangUp => exact .hangUp
  | commit stamp member => exact .commit stamp member

/-- A step is that of a consumer, one of the supervisor, or it happens aside. -/
theorem Step.work_or_supervise_or_aside (step : Step others scene after) :
    (∃ index, scene.workAt? index = some after) ∨
      (∃ session client, scene.session.Supervised scene.client scene.now session client ∧
        { scene with session, client } = after) ∨ Aside others scene after := by
  cases step with
  | turn turn =>
      cases turn with
      | work worked => exact .inl ⟨_, worked⟩
      | supervise supervised => exact .inr (.inl ⟨_, _, supervised, rfl⟩)
      | pass later => exact .inr (.inr (.pass later))
      | cancel => exact .inr (.inr .cancel)
      | change changed => exact .inr (.inr (.change changed))
  | receive receives => exact .inr (.inr (.receive receives))
  | hangUp => exact .inr (.inr .hangUp)
  | commit stamp member => exact .inr (.inr (.commit stamp member))

/-- A step of a scene whose supervisor stops consumers only for a reason that there is. -/
structure Warranted (others : β → β → Prop) (scene after : Scene β σ ρ) : Prop where
  step : Step others scene after
  why : scene.session.supervisor = .watching → ∀ reason deadline,
    after.session.supervisor = .draining reason deadline →
      scene.session.Warrants scene.now reason

variable (others)

/-- Schedules tell nobody to stop without a reason. -/
theorem warranted_of_play? {picks : List Pick} (played : scene.play? picks = some after) :
    ReflTransGen (Warranted others) scene after := by
  apply reflTransGen_of_play? _ _ played
  · intro scene after pick turned
    refine ⟨.turn (turn_of_turn? others turned), fun watching reason deadline draining => ?_⟩
    cases pick with
    | supervise =>
        rcases Option.map_eq_some_iff.mp turned with ⟨⟨session, client⟩, supervised, rfl⟩
        exact Session.warrants_of_supervise? supervised watching draining
    | work index =>
        rcases workAt?_eq_some_iff.mp turned with ⟨consumer, outcome, -, rfl⟩
        cases watching.symm.trans draining
    | pass now =>
        rw [turn?] at turned
        split at turned
        · cases turned
          cases watching.symm.trans draining
        · cases turned
    | read => cases turned
  · intro scene after received
    refine ⟨.receive received, fun watching reason deadline draining => ?_⟩
    rcases receive?_eq_some_iff.mp received with ⟨event, rest, -, rfl⟩
    cases watching.symm.trans draining

end Aside

end Scene

/-! ## Histories -/

/-- A scene with the history of what was met and of who was taken note of. -/
structure Chronicle (β σ ρ : Type) where
  scene : Scene β σ ρ
  /-- The errors that consumers got over, with the partitions of those who met them. -/
  met : List (TopicPartition × Broker.Error) := []
  /-- The consumers that the supervisor took note of, by their places in the crew. -/
  joined : List Nat := []

namespace Chronicle

variable {β σ ρ : Type} [Client β σ] [OffsetStore ρ]

/-- The error that the consumer at a place meets at its next step, if it gets over one. -/
def meeting (chronicle : Chronicle β σ ρ) (index : Nat) : List (TopicPartition × Broker.Error) :=
  match chronicle.scene.session.crew.consumers[index]? with
  | some consumer =>
      let scene := chronicle.scene
      let around := scene.session.crew.around scene.client scene.store scene.now
      (consumer.passing? around).toList.map fun e => (consumer.place, e)
  | none => []

/-- What can happen in a scene, with what is added to the histories. -/
inductive Step (others : β → β → Prop) (chronicle : Chronicle β σ ρ) :
    Chronicle β σ ρ → Prop where
  | work {index : Nat} {after : Scene β σ ρ} (works : chronicle.scene.workAt? index = some after) :
      Step others chronicle
        { chronicle with scene := after, met := chronicle.met ++ chronicle.meeting index }
  | join {index : Nat} {rest : List Nat} (undone : chronicle.scene.session.summary? = none)
      (waits : chronicle.scene.session.crew.unnoted = index :: rest) :
      Step others chronicle
        { chronicle with
          scene := { chronicle.scene with session := chronicle.scene.session.noteAt index rest }
          joined := chronicle.joined ++ [index] }
  /-- The supervisor begins to wait for consumers, or it draws up the summary. -/
  | rule {session : Session σ} {client : β}
      (supervised : chronicle.scene.session.Supervised chronicle.scene.client chronicle.scene.now
        session client)
      (moved : session.supervisor ≠ chronicle.scene.session.supervisor)
      (why : chronicle.scene.session.supervisor = .watching → ∀ reason deadline,
        session.supervisor = .draining reason deadline →
          chronicle.scene.session.Warrants chronicle.scene.now reason) :
      Step others chronicle
        { chronicle with scene := { chronicle.scene with session, client } }
  | aside {after : Scene β σ ρ} (aside : Scene.Aside others chronicle.scene after) :
      Step others chronicle { chronicle with scene := after }

variable {others : β → β → Prop} {chronicle after : Chronicle β σ ρ}

/-- A step of a chronicle is one of its scene. -/
theorem Step.scene (step : Step others chronicle after) :
    Scene.Step others chronicle.scene after.scene := by
  cases step with
  | work worked => exact .turn (.work worked)
  | join undone waits =>
      exact .turn (.supervise (.noted undone (Session.join?_of_unnoted waits)))
  | rule supervised moved why => exact .turn (.supervise supervised)
  | aside aside => exact aside.step

theorem reaches_scene (runs : ReflTransGen (Step others) chronicle after) :
    ReflTransGen (Scene.Step others) chronicle.scene after.scene := by
  induction runs with
  | refl => exact .refl
  | tail _ step ih => exact .tail ih step.scene

omit [OffsetStore ρ] in
/-- What a supervisor does is to take note of a consumer, or it moves on itself. -/
theorem joined_or_moved {session next : Session σ} {client clientAfter : β} {now : Nat}
    (supervised : session.Supervised client now next clientAfter) :
    (session.summary? = none ∧ clientAfter = client ∧ ∃ index rest,
      session.crew.unnoted = index :: rest ∧ session.noteAt index rest = next) ∨
      next.supervisor ≠ session.supervisor := by
  cases supervised with
  | noted undone joined =>
      rcases Session.join?_eq_some_iff.mp joined with ⟨index, rest, waits, noted⟩
      exact .inl ⟨undone, rfl, index, rest, waits, noted⟩
  | completed watching settled =>
      right
      rw [watching]
      exact nofun
  | told watching why =>
      right
      rw [watching]
      exact nofun
  | drained draining settled =>
      right
      rw [draining]
      exact nofun
  | gaveUp draining late aborted =>
      right
      rw [draining]
      exact nofun

/-- Whatever happens in a scene for a reason can be chronicled. -/
theorem exists_step {scene : Scene β σ ρ}
    (warranted : Scene.Warranted others chronicle.scene scene) :
    ∃ after, Step others chronicle after ∧ after.scene = scene := by
  rcases warranted.step.work_or_supervise_or_aside with
    ⟨index, worked⟩ | ⟨session, client, supervised, rfl⟩ | aside
  · exact ⟨_, .work worked, rfl⟩
  · rcases joined_or_moved supervised with ⟨undone, rfl, index, rest, waits, rfl⟩ | moved
    · exact ⟨_, .join undone waits, rfl⟩
    · exact ⟨_, .rule supervised moved warranted.why, rfl⟩
  · exact ⟨_, .aside aside, rfl⟩

theorem exists_reaches {scene : Scene β σ ρ}
    (runs : ReflTransGen (Scene.Warranted others) chronicle.scene scene) :
    ∃ after, ReflTransGen (Step others) chronicle after ∧ after.scene = scene := by
  induction runs with
  | refl => exact ⟨chronicle, .refl, rfl⟩
  | tail _ warranted ih =>
      rcases ih with ⟨middle, earlier, rfl⟩
      rcases exists_step warranted with ⟨after, last, rfl⟩
      exact ⟨after, .tail earlier last, rfl⟩

end Chronicle

end TopicReplay
