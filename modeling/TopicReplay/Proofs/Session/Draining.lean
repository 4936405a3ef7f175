import TopicReplay.Proofs.Broker.Sound
import TopicReplay.Proofs.Session.Conserved

/-!
# Draining

A session that is drained has told its consumers to stop. From then on each consumer that
goes on has a step, whatever it waits for, and the step ends it as cancelled. Nothing more
is delivered or counted, and every step of a consumer leaves one consumer fewer, so that
the steps of consumers are at most as many as went on when the signal was given.
-/

namespace TopicReplay

open Broker (Client)
open Relation (ReflTransGen)
open Store (OffsetStore)

namespace Consumer

variable {β σ ρ : Type} [Client β σ] [OffsetStore ρ] {around : Surroundings β ρ}
  {consumer : Consumer σ} {outcome : Outcome β σ}

/-- Whatever a consumer that was told to stop is about to do, it can only end. -/
theorem Move.eq_finish (move : Move around consumer outcome) (told : around.stop = true) :
    outcome = consumer.finish around.client (.finished .cancelled) := by
  cases move with
  | cancelled going told => rfl
  | _ => simp_all

end Consumer

namespace Crew

variable {σ : Type}

/-- How many consumers have not ended. -/
def going (crew : Crew σ) : Nat := crew.consumers.countP fun consumer => consumer.ending?.isNone

theorem isOver_iff_going_eq_zero {crew : Crew σ} : crew.isOver = true ↔ crew.going = 0 := by
  simp [isOver, going, Option.isSome_iff_ne_none]

end Crew

namespace Scene

variable {β σ ρ : Type} [Client β σ] [OffsetStore ρ] {others : β → β → Prop}
  {scene after later : Scene β σ ρ}

/-- A step of a consumer that was told to stop ends it and changes nothing else of what the
consumers share. -/
theorem Works.work_eq {index : Nat} {consumer : Consumer σ} {outcome : Consumer.Outcome β σ}
    (works : scene.Works index consumer outcome) (told : scene.session.crew.stop = true) :
    scene.work index consumer outcome =
      { scene with
        session := { scene.session with
          crew := scene.session.crew.replace index
            (consumer.enter (.ended (.finished .cancelled))) }
        client := outcome.client } := by
  have outcome_eq := works.moves.eq_finish told
  subst outcome_eq
  simp [work, Crew.absorb]

/-- A consumer that was told to stop and has not ended has a step. -/
theorem exists_workAt? (told : scene.session.crew.stop = true) {index : Nat}
    {consumer : Consumer σ} (found : scene.session.crew.consumers[index]? = some consumer)
    (going : consumer.ending? = none) : ∃ after, scene.workAt? index = some after := by
  have moves : Consumer.Move (scene.session.crew.around scene.client scene.store scene.now)
      consumer (consumer.finish scene.client (.finished .cancelled)) :=
    .cancelled going told
  exact ⟨_, workAt?_eq_some_iff.mpr ⟨consumer, _, ⟨found, moves⟩, rfl⟩⟩

theorem Step.stop (step : Step others scene after) (told : scene.session.crew.stop = true) :
    after.session.crew.stop = true := by
  rcases step.work_or_kept with ⟨index, consumer, outcome, -, rfl⟩ | kept
  · rw [stop_work]
    exact told
  · exact kept.stop told

/-- Nothing is delivered or counted after the signal to stop. -/
theorem Step.silent (step : Step others scene after) (told : scene.session.crew.stop = true) :
    after.sent = scene.sent ∧ after.session.crew.stats = scene.session.crew.stats := by
  rcases step.work_or_kept with ⟨index, consumer, outcome, works, rfl⟩ | kept
  · rw [works.work_eq told]
    exact ⟨rfl, rfl⟩
  · exact ⟨kept.sent, kept.stats⟩

theorem silent_of_reaches (runs : ReflTransGen (Step others) scene later)
    (told : scene.session.crew.stop = true) :
    later.session.crew.stop = true ∧ later.sent = scene.sent ∧
      later.session.crew.stats = scene.session.crew.stats := by
  induction runs with
  | refl => exact ⟨told, rfl, rfl⟩
  | tail _ step ih =>
      obtain ⟨still, sent_eq, stats_eq⟩ := ih
      have silent := step.silent still
      exact ⟨step.stop still, silent.1.trans sent_eq, silent.2.trans stats_eq⟩

/-- A step of a consumer leaves one fewer that goes on. -/
theorem going_work {index : Nat} {consumer : Consumer σ} {outcome : Consumer.Outcome β σ}
    (works : scene.Works index consumer outcome) (told : scene.session.crew.stop = true) :
    (scene.work index consumer outcome).session.crew.going + 1 = scene.session.crew.going := by
  have inside := (List.getElem?_eq_some_iff.mp works.found).choose
  have at_index := (List.getElem?_eq_some_iff.mp works.found).choose_spec
  have unended : (scene.session.crew.consumers[index]).ending?.isNone = true := by
    rw [at_index, works.moves.going]
    rfl
  have positive : 0 < scene.session.crew.going :=
    List.countP_pos_iff.mpr ⟨_, List.getElem_mem inside, unended⟩
  rw [works.work_eq told]
  simp only [Crew.going, Crew.consumers_replace, List.countP_set inside, unended] at positive ⊢
  simp
  omega

/-- A step of a consumer or of the supervisor, without the clock and without the reader. -/
inductive Proceeds (scene : Scene β σ ρ) : Scene β σ ρ → Prop where
  | work {index : Nat} {after : Scene β σ ρ} (works : scene.workAt? index = some after) :
      Proceeds scene after
  | supervise {session : Session σ} {client : β}
      (supervised : scene.session.supervise? scene.client scene.now = some (session, client)) :
      Proceeds scene { scene with session, client }

/-- Consumers that were told to stop can all end one after the other. -/
theorem exists_over (told : scene.session.crew.stop = true) :
    ∃ later, ReflTransGen Proceeds scene later ∧ later.session.crew.isOver = true ∧
      later.session.supervisor = scene.session.supervisor := by
  generalize count : scene.session.crew.going = n
  induction n generalizing scene with
  | zero => exact ⟨scene, .refl, Crew.isOver_iff_going_eq_zero.mpr count, rfl⟩
  | succ n ih =>
      have unended : 0 < scene.session.crew.going := by rw [count]; exact Nat.succ_pos n
      rcases List.countP_pos_iff.mp unended with ⟨consumer, member, goes⟩
      rcases List.getElem?_of_mem member with ⟨index, found⟩
      rcases exists_workAt? told found (Option.isNone_iff_eq_none.mp goes) with ⟨after, worked⟩
      rcases workAt?_eq_some_iff.mp worked with ⟨mover, outcome, works, rfl⟩
      have fewer := going_work works told
      rw [count] at fewer
      have still : (scene.work index mover outcome).session.crew.stop = true := by
        rw [stop_work]
        exact told
      rcases ih still (Nat.succ.inj fewer) with ⟨later, runs, ended, supervisor⟩
      exact ⟨later, .head (.work worked) runs, ended, supervisor⟩

/-- Once all consumers have ended, a session that is drained can be closed. -/
theorem exists_closed_of_over {reason : Reason} {deadline : Nat}
    (draining : scene.session.supervisor = .draining reason deadline)
    (ended : scene.session.crew.isOver = true) :
    ∃ later summary, ReflTransGen Proceeds scene later ∧ later.session.summary? = some summary := by
  generalize unnoted_eq : scene.session.crew.unnoted = unnoted
  induction unnoted generalizing scene with
  | nil =>
      have settled : scene.session.crew.isSettled = true := by
        rw [Crew.isSettled, ended, unnoted_eq]
        rfl
      have supervised : scene.session.supervise? scene.client scene.now =
          some (scene.session.close reason, scene.client) := by
        simp [Session.supervise?, draining, settled]
      exact ⟨_, _, .single (.supervise supervised), rfl⟩
  | cons index rest ih =>
      have joined := Session.join?_of_unnoted unnoted_eq
      have unsettled : scene.session.crew.isSettled = false := by
        rw [Crew.isSettled, unnoted_eq]
        exact Bool.and_false _
      have supervised : scene.session.supervise? scene.client scene.now =
          some (scene.session.noteAt index rest, scene.client) := by
        simp [Session.supervise?, draining, unsettled, joined]
      let after : Scene β σ ρ := { scene with session := scene.session.noteAt index rest }
      have still : after.session.crew.isOver = true := by
        rw [Crew.isOver, Session.consumers_noteAt]
        exact ended
      have supervisor := Session.supervisor_noteAt scene.session index rest
      have unnoted : after.session.crew.unnoted = rest := Session.unnoted_noteAt _ _ _
      rcases ih (supervisor.trans draining) still unnoted with ⟨later, summary, runs, drawn⟩
      exact ⟨later, summary, .head (.supervise supervised) runs, drawn⟩

/-- Draining needs nobody else: a session that is drained can be closed by the steps of its
consumers and its supervisor alone, at the time at which the signal to stop was given. -/
theorem exists_closed {reason : Reason} {deadline : Nat}
    (draining : scene.session.supervisor = .draining reason deadline)
    (told : scene.session.crew.stop = true) :
    ∃ later summary, ReflTransGen Proceeds scene later ∧
      later.session.summary? = some summary := by
  rcases exists_over told with ⟨_, ends, ended, supervisor⟩
  rcases exists_closed_of_over (supervisor.trans draining) ended with ⟨later, summary, runs, drawn⟩
  exact ⟨later, summary, ends.trans runs, drawn⟩

/-- In a scene that comes to be after the signal to stop, every consumer that has not ended
has a step, and all its steps end it as cancelled. They deliver and count nothing, as
nothing was delivered or counted since the signal, and each of them leaves one consumer
fewer. -/
theorem told_consumer_ends (told : scene.session.crew.stop = true)
    (runs : ReflTransGen (Step others) scene later) {index : Nat} {consumer : Consumer σ}
    (found : later.session.crew.consumers[index]? = some consumer)
    (going : consumer.ending? = none) :
    (∃ after, later.workAt? index = some after) ∧
      (∀ after, later.workAt? index = some after →
        after.session.crew.consumers[index]? =
            some (consumer.enter (.ended (.finished .cancelled))) ∧
          after.sent = later.sent ∧
          after.session.crew.channel = later.session.crew.channel ∧
          after.session.crew.stats = later.session.crew.stats ∧
          after.session.crew.going + 1 = later.session.crew.going) ∧
      later.sent = scene.sent ∧ later.session.crew.stats = scene.session.crew.stats := by
  obtain ⟨still, sent_eq, stats_eq⟩ := silent_of_reaches runs told
  refine ⟨exists_workAt? still found going, fun after worked => ?_, sent_eq, stats_eq⟩
  rcases workAt?_eq_some_iff.mp worked with ⟨mover, outcome, works, rfl⟩
  have mover_eq : mover = consumer := Option.some.inj (works.found.symm.trans found)
  subst mover_eq
  have outcome_eq := works.moves.eq_finish still
  subst outcome_eq
  have work_eq := works.work_eq still
  refine ⟨works.getElem?_work, ?_, ?_, ?_, going_work works still⟩
  · rw [work_eq]
  · rw [work_eq]
    rfl
  · rw [work_eq]
    rfl

section Crowded

open Broker (Cursor LogBroker)
open Store (MemoryStore)

/-- Two consumers behind a channel with room for one event. -/
def crowdedStart : Scene LogBroker Cursor MemoryStore :=
  (start { capacity := 1 } 0 false
    (OrderedMap.empty.insert "orders" { common := ⟨.oldest, none⟩ }) 0 .orders {}).2

/-- The first consumer fills the channel and holds another event, and the second one is about
to open its stream. -/
def crowdedSchedule : List Pick := [.work 0, .work 0, .work 0, .work 0, .work 0, .work 1]

/-- The scene in which they are told to stop, while nobody receives the event that waits. -/
def crowded? : Option (Scene LogBroker Cursor MemoryStore) :=
  (crowdedStart.play? crowdedSchedule).map fun scene =>
    { scene with session := scene.session.cancel.drain .cancelled scene.now }

/-- The consumer that holds an event ends though there is no room for it. -/
theorem told_consumer_ends_crowded :
    ∃ scene consumer, crowded? = some scene ∧ scene.session.crew.channel.hasRoom = false ∧
      scene.session.crew.consumers[0]? = some consumer ∧
      ∃ after, scene.workAt? 0 = some after ∧
        after.session.crew.consumers[0]? =
          some (consumer.enter (.ended (.finished .cancelled))) ∧
        after.sent.map (·.offset) = [0] ∧ after.session.crew.going = 1 := by
  obtain ⟨scene, crowds⟩ : ∃ scene, crowded? = some scene :=
    Option.isSome_iff_exists.mp (by decide +kernel)
  have facts : ∀ scene ∈ crowded?, scene.session.crew.stop = true ∧
      scene.session.crew.channel.hasRoom = false ∧ scene.sent.map (·.offset) = [0] ∧
      scene.session.crew.going = 2 ∧
      (scene.session.crew.consumers[0]?.any fun consumer => consumer.ending?.isNone) = true := by
    decide +kernel
  obtain ⟨told, full, offsets, going, first⟩ := facts scene crowds
  obtain ⟨consumer, found, goes⟩ : ∃ consumer, scene.session.crew.consumers[0]? = some consumer ∧
      consumer.ending?.isNone = true := by
    simpa [Option.any_eq_true] using first
  have same : ReflTransGen (Step Eq) scene scene := .refl
  obtain ⟨⟨after, works⟩, ends, -⟩ := told_consumer_ends told same found
    (Option.isNone_iff_eq_none.mp goes)
  obtain ⟨placed, sent_eq, -, -, fewer⟩ := ends after works
  refine ⟨scene, consumer, crowds, full, found, after, works, placed, ?_, ?_⟩
  · rw [sent_eq]
    exact offsets
  · rw [going] at fewer
    exact Nat.succ.inj fewer

end Crowded

end Scene

end TopicReplay
