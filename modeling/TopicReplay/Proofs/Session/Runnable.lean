import TopicReplay.Proofs.Checkpoint.Runnable
import TopicReplay.Proofs.Session.Inquiry

/-!
# Sessions of selections that were built

A session sends its consumers out with spans of the selections that it was given. Where
these were built, every span can be run, and a step of a consumer leaves its span as it is.
So no consumer ever ends with an error of its span; the broker alone can make one fail.

The main statement is `built_selections_run`.
-/

namespace TopicReplay

open Broker (Client)
open Consumer (Move Outcome Surroundings resolve)
open Relation (ReflTransGen)
open Selection (build)
open Store (OffsetStore)

variable {β σ ρ : Type} [Client β σ] [OffsetStore ρ]

/-! ## Consumers -/

namespace Consumer

/-- Whether the span of a consumer can be run, and only its broker has made it fail. -/
structure Sensible (consumer : Consumer σ) : Prop where
  runnable : consumer.span.Runnable
  failed : ∀ e, consumer.ending? = some (.failed e) → ∃ fault, e = .broker fault

variable {around : Surroundings β ρ} {consumer : Consumer σ} {outcome : Outcome β σ}

omit [Client β σ] in
theorem sensible_of_going (runnable : consumer.span.Runnable) (going : consumer.ending? = none) :
    consumer.Sensible where
  runnable := runnable
  failed e ended := by
    rw [going] at ended
    cases ended

omit [Client β σ] in
/-- A consumer may end with anything but an error that is not its broker's. -/
theorem sensible_of_ended (runnable : consumer.span.Runnable) {ending : Ending}
    (harmless : ∀ e, ending = .failed e → ∃ fault, e = .broker fault) :
    (consumer.enter (.ended ending)).Sensible where
  runnable := runnable
  failed e ended := by
    rw [ending?_ended, Option.some.injEq] at ended
    exact harmless e ended

theorem Sensible.move (sensible : consumer.Sensible) (moves : Move around consumer outcome) :
    outcome.consumer.Sensible := by
  have runnable := sensible.runnable
  cases moves with
  | cancelled | crossed | crashed | ended | unheard | stopped =>
      exact sensible_of_ended runnable fun _ same => by cases same
  | resolved | attached | rested | skipped | took | woke | delivered =>
      exact sensible_of_going runnable rfl
  | unresolved untold phase resolves =>
      refine sensible_of_ended runnable ?_
      rintro e ⟨⟩
      rcases runnable.resolve_eq_error resolves with ⟨-, fault, rfl, -⟩
      exact ⟨fault, rfl⟩
  | unattached | failed =>
      refine sensible_of_ended runnable ?_
      rintro e ⟨⟩
      exact ⟨_, rfl⟩

end Consumer

/-! ## Sessions -/

namespace Scene

variable {others : β → β → Prop} {scene after : Scene β σ ρ}

/-- Whether all consumers of a scene are sensible. -/
def Sensible (scene : Scene β σ ρ) : Prop :=
  ∀ consumer ∈ scene.session.crew.consumers, consumer.Sensible

/-- Whether all selections were built. -/
def Built (topics : Session.Topics) : Prop :=
  ∀ topic selection, topics.get? topic = some selection →
    ∃ starts stops exclusive, build starts stops exclusive = .ok selection

omit [OffsetStore ρ] in
theorem sensible_start {settings : Settings} {born now : Nat} {cancelled : Bool}
    {topics : Session.Topics} {client : β} {store : ρ} {result : Except RunError Unit}
    (built : Built topics)
    (started : start settings born cancelled topics now client store = (result, scene)) :
    scene.Sensible := by
  obtain ⟨session, after, rfl, starts⟩ := exists_starts started
  cases starts with
  | refused refuses => exact fun _ member => absurd member List.not_mem_nil
  | cancelled claims told =>
      rcases Session.claim_eq_ok_iff.mp claims with ⟨-, -, rfl⟩
      exact fun _ member => absurd member List.not_mem_nil
  | unplanned claims plans =>
      rcases Session.claim_eq_ok_iff.mp claims with ⟨-, -, rfl⟩
      exact fun _ member => absurd member List.not_mem_nil
  | @launched claimed planned after claims untold plans =>
      intro consumer member
      rcases List.mem_map.mp member with ⟨plan, planMember, rfl⟩
      have surveyed := Session.surveyed_hold claimed.settings topics.toList client
      rw [(Prod.mk.inj ((Session.planTopics_eq _ _ _).symm.trans plans)).1] at surveyed
      obtain ⟨selection, partitions, asked, -, -, chosen⟩ := surveyed.mem_plans_iff.mp planMember
      rcases built _ _ asked with ⟨starts, stops, exclusive, built⟩
      exact Consumer.sensible_of_going (Selection.runnable_of_build built chosen) rfl

theorem Sensible.step (sensible : scene.Sensible) (step : Step others scene after) :
    after.Sensible := by
  intro consumer member
  rcases step.work_or_kept with ⟨index, worker, outcome, works, rfl⟩ | kept
  · rw [consumers_work] at member
    rcases List.mem_or_eq_of_mem_set member with old | rfl
    · exact sensible consumer old
    · exact (sensible worker (List.mem_of_getElem? works.found)).move works.moves
  · rcases kept.mem_or_aborted member with old | ⟨⟨old, oldMember, rfl⟩, -⟩
    · exact sensible consumer old
    · exact Consumer.sensible_of_ended (sensible old oldMember).runnable fun _ same => by cases same

theorem Sensible.run (sensible : scene.Sensible) (runs : ReflTransGen (Step others) scene after) :
    after.Sensible := by
  induction runs with
  | refl => exact sensible
  | tail _ step ih => exact ih.step step

end Scene

/-- Every span of a selection that was built can be run, be it a partition's own or that of all
partitions: no offset is below zero, the stop is one that can stop a reader, and its ends are in
order where they can be compared. So resolving it for whatever broker, store and environment
never ends with a stop that is none, and with an error only if the broker refuses to tell an
offset. In a session of such selections no consumer ever fails but with an error of its broker,
whatever happens and in whatever order. -/
theorem built_selections_run :
    (∀ {starts stops : List String} {exclusive : Bool} {selection : Selection},
      build starts stops exclusive = .ok selection →
      ∀ {partition : Int} {span : Span}, (selection.choose partition).span? = some span →
        span.Runnable ∧
          ∀ {β σ ρ : Type} [Client β σ] [OffsetStore ρ] (client : β) (store : ρ)
            (environment : String) (place : TopicPartition),
            (∀ text, resolve client store environment place span ≠
              .error (.checkpoint (.notAStop text))) ∧
            ∀ e, resolve client store environment place span = .error e →
              Refuses client place e) ∧
    ∀ {β σ ρ : Type} [Client β σ] [OffsetStore ρ] {others : β → β → Prop} {settings : Settings}
      {born now : Nat} {cancelled : Bool} {topics : Session.Topics} {client : β} {store : ρ}
      {result : Except RunError Unit} {begun scene : Scene β σ ρ}, Scene.Built topics →
      Scene.start settings born cancelled topics now client store = (result, begun) →
      ReflTransGen (Scene.Step others) begun scene →
        ∀ consumer ∈ scene.session.crew.consumers, consumer.span.Runnable ∧
          ∀ e, consumer.ending? = some (.failed e) → ∃ fault, e = .broker fault := by
  constructor
  · intro starts stops exclusive selection built partition span chosen
    have runnable := Selection.runnable_of_build built chosen
    refine ⟨runnable, fun client store environment place => ⟨fun text failed => ?_, fun e => ?_⟩⟩
    · rcases runnable.resolve_eq_error failed with ⟨_, _, other, -⟩
      cases other
    · exact runnable.resolve_eq_error
  · intro β σ ρ _ _ others settings born now cancelled topics client store result begun scene built
      started runs consumer member
    have sensible := ((Scene.sensible_start built started).run runs) consumer member
    exact ⟨sensible.runnable, sensible.failed⟩

section Inherited

open Broker (Cursor LogBroker)
open Store (MemoryStore)

/-- A broker that does not tell the offsets of the one partition it has. -/
def muteBroker : LogBroker :=
  (LogBroker.addTopic {} "orders" 1).failLookups ⟨"orders", 0⟩ (.timeout "fetch_watermarks" 500)

/-- A partition with an offset to start at, which inherits the stop of all. -/
def inheriting : Selection where
  common := ⟨.stored, some .newest⟩
  own := OrderedMap.empty.insert 0 ⟨.offset 50, some .newest⟩

/-- A session that reads the partition from a broker, in the moment it has been started. -/
def inheritingScene : Scene LogBroker Cursor MemoryStore :=
  (Scene.start {} 0 false (OrderedMap.empty.insert "orders" inheriting) 0 muteBroker {}).2

/-- The end of a partition is inherited as its stop, but the broker does not tell it. So its
consumer fails with what the broker says. -/
theorem built_selections_run_inherited :
    build ["local", "0#50"] ["newest"] false = .ok inheriting ∧
      (⟨.offset 50, some .newest⟩ : Span).Runnable ∧
      Refuses muteBroker ⟨"orders", 0⟩ (.broker (.timeout "fetch_watermarks" 500)) ∧
      ∃ scene, inheritingScene.play? [.work 0] = some scene ∧
        scene.session.crew.consumers.map (·.ending?) =
          [some (.failed (.broker (.timeout "fetch_watermarks" 500)))] ∧
        ∀ consumer ∈ scene.session.crew.consumers, consumer.span.Runnable ∧
          ∀ e, consumer.ending? = some (.failed e) → ∃ fault, e = .broker fault := by
  have built : build ["local", "0#50"] ["newest"] false = .ok inheriting := by decide +kernel
  have all_built : Scene.Built (OrderedMap.empty.insert "orders" inheriting) := by
    intro topic selection asked
    rw [OrderedMap.get?_insert] at asked
    split at asked
    · cases asked
      exact ⟨_, _, _, built⟩
    · cases asked
  have chosen : (inheriting.choose 0).span? = some ⟨.offset 50, some .newest⟩ := rfl
  obtain ⟨spans, sessions⟩ := built_selections_run
  obtain ⟨runnable, resolves⟩ := spans built chosen
  obtain ⟨-, refuses⟩ := resolves muteBroker ({} : MemoryStore) "default" ⟨"orders", 0⟩
  obtain ⟨scene, played, failed⟩ :
      ∃ scene, inheritingScene.play? [.work 0] = some scene ∧
        scene.session.crew.consumers.map (·.ending?) =
          [some (.failed (.broker (.timeout "fetch_watermarks" 500)))] := ⟨_, rfl, rfl⟩
  have started : Scene.start {} 0 false (OrderedMap.empty.insert "orders" inheriting) 0 muteBroker
      ({} : MemoryStore) = (.ok (), inheritingScene) := rfl
  exact ⟨built, runnable, refuses _ rfl, scene, played, failed,
    sessions all_built started (Scene.reaches_of_play? LogBroker.Change played)⟩

end Inherited

end TopicReplay
