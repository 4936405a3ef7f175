import TopicReplay.Proofs.Consumer.Stuck
import TopicReplay.Proofs.Session.Begin
import TopicReplay.Proofs.Session.Summary

/-!
# Sessions that are stuck

A session is stuck when neither a consumer nor the supervisor has a step, now or at any later
time. One that nobody listens to, that was not asked to stop and that does not stop by itself
when it is idle has a single way to get there: everybody who has not ended waits for a stream
with nothing to read.
-/

namespace TopicReplay

open Broker (Client)
open Relation (ReflTransGen)
open Store (OffsetStore)

namespace Scene

variable {β σ ρ : Type} [Client β σ] [OffsetStore ρ] {others : β → β → Prop}
  {scene after : Scene β σ ρ}

/-- Whether no consumer and not the supervisor has a step, whatever the clock will say. -/
def IsStuck (scene : Scene β σ ρ) : Prop :=
  ∀ now ≥ scene.now,
    (∀ index, Scene.workAt? { scene with now } index = none) ∧
      scene.session.supervise? scene.client now = none

theorem workAt?_eq_none_iff :
    (∀ index, scene.workAt? index = none) ↔
      ∀ consumer ∈ scene.session.crew.consumers,
        consumer.step? (scene.session.crew.around scene.client scene.store scene.now) = none := by
  constructor
  · intro idle consumer member
    rcases List.getElem?_of_mem member with ⟨index, found⟩
    exact step?_of_idle found (idle index)
  · intro idle index
    rw [Option.eq_none_iff_forall_ne_some]
    intro after worked
    rcases workAt?_eq_some_iff.mp worked with ⟨consumer, outcome, works, -⟩
    have steps := Consumer.step?_of_move works.moves
    rw [idle consumer (List.mem_of_getElem? works.found)] at steps
    cases steps

/-- Whether a session that began has no reason to stop its consumers, as long as it is not
asked to and has no timeout. -/
structure Attended (scene : Scene β σ ρ) : Prop where
  begun : scene.session.supervisor ≠ .absent
  undisturbed : scene.session.cancelled = false → scene.session.settings.idleTimeout = none →
    scene.session.crew.stop = false ∧
      ∀ reason deadline, scene.session.supervisor ≠ .draining reason deadline

omit [Client β σ] [OffsetStore ρ] in
/-- What leaves the supervisor and the signals alone leaves a session attended. -/
theorem Attended.of_eq (attended : scene.Attended)
    (supervisor : after.session.supervisor = scene.session.supervisor)
    (cancelled : after.session.cancelled = scene.session.cancelled)
    (settings : after.session.settings = scene.session.settings)
    (stop : after.session.crew.stop = scene.session.crew.stop) : after.Attended where
  begun := by
    rw [supervisor]
    exact attended.begun
  undisturbed := by
    rw [supervisor, cancelled, settings, stop]
    exact attended.undisturbed

theorem Attended.turn (attended : scene.Attended) (turn : Turn others scene after) :
    after.Attended := by
  cases turn with
  | work worked =>
      rcases workAt?_eq_some_iff.mp worked with ⟨consumer, outcome, -, rfl⟩
      exact attended.of_eq rfl rfl rfl (stop_work _ _ _ _)
  | supervise supervised =>
      have settings := supervised.kept.settings
      cases supervised with
      | noted undone joined =>
          obtain ⟨supervisor, cancelled, stop⟩ := Session.signals_of_join? joined
          exact attended.of_eq supervisor cancelled settings stop
      | completed watching settled =>
          refine ⟨nofun, fun uncancelled patient => ?_⟩
          exact ⟨(attended.undisturbed uncancelled patient).1, nofun⟩
      | told watching why =>
          refine ⟨nofun, fun uncancelled patient => ?_⟩
          rcases why with cancelled | idle
          · exact absurd (cancelled.symm.trans uncancelled) (by simp)
          · have never : scene.session.isIdle scene.now = false :=
              Session.isIdle_eq_false patient _
            rw [never] at idle
            cases idle
      | drained draining settled =>
          refine ⟨nofun, fun uncancelled patient => ?_⟩
          exact absurd draining ((attended.undisturbed uncancelled patient).2 _ _)
      | gaveUp draining late aborted =>
          refine ⟨nofun, fun uncancelled patient => ?_⟩
          exact absurd draining ((attended.undisturbed uncancelled patient).2 _ _)
  | pass later => exact attended.of_eq rfl rfl rfl rfl
  | cancel => exact ⟨attended.begun, nofun⟩
  | change changed => exact attended.of_eq rfl rfl rfl rfl

theorem Attended.step (attended : scene.Attended) (step : Step others scene after) :
    after.Attended := by
  cases step with
  | turn turn => exact attended.turn turn
  | receive receives =>
      rcases receive?_eq_some_iff.mp receives with ⟨event, rest, -, rfl⟩
      exact attended.of_eq rfl rfl rfl rfl
  | hangUp => exact attended.of_eq rfl rfl rfl rfl
  | commit stamp member =>
      exact attended.of_eq (by simp [Session.advance]) (by simp [Session.advance]) (by simp)
        (by simp)

theorem Attended.run (attended : scene.Attended) (runs : ReflTransGen (Step others) scene after) :
    after.Attended := by
  induction runs with
  | refl => exact attended
  | tail _ step ih => exact ih.step step

omit [OffsetStore ρ] in
/-- A session is attended when it was started. -/
theorem attended_start {settings : Settings} {born now : Nat} {cancelled : Bool}
    {topics : Session.Topics} {client : β} {store : ρ}
    (started : start settings born cancelled topics now client store = (.ok (), scene)) :
    scene.Attended := by
  obtain ⟨session, after, rfl, starts⟩ := exists_starts started
  cases starts with
  | cancelled claims told =>
      rcases Session.claim_eq_ok_iff.mp claims with ⟨-, -, rfl⟩
      constructor
      · intro absent
        cases absent
      · intro _ _
        refine ⟨rfl, fun reason deadline draining => ?_⟩
        cases draining
  | launched claims untold plans =>
      rcases Session.claim_eq_ok_iff.mp claims with ⟨-, -, rfl⟩
      constructor
      · intro absent
        cases absent
      · intro _ _
        refine ⟨rfl, fun reason deadline draining => ?_⟩
        cases draining

omit [Client β σ] [OffsetStore ρ] in
/-- A session without a summary and without a reason to stop watches its consumers. -/
theorem Attended.watching (attended : scene.Attended)
    (uncancelled : scene.session.cancelled = false)
    (patient : scene.session.settings.idleTimeout = none)
    (undone : scene.session.summary? = none) : scene.session.supervisor = .watching := by
  have undrained := (attended.undisturbed uncancelled patient).2
  cases supervisor : scene.session.supervisor with
  | absent => exact absurd supervisor attended.begun
  | watching => rfl
  | draining reason deadline => exact absurd supervisor (undrained reason deadline)
  | done summary => simp [Session.summary?, supervisor] at undone

section Stuck

variable (attended : scene.Attended) (uncancelled : scene.session.cancelled = false)
  (patient : scene.session.settings.idleTimeout = none)
  (undone : scene.session.summary? = none)

include attended uncancelled patient undone

omit [OffsetStore ρ] in
theorem Attended.supervise?_eq_none_iff (now : Nat) :
    scene.session.supervise? scene.client now = none ↔
      scene.session.crew.isOver = false ∧ scene.session.crew.unnoted = [] := by
  rw [Session.supervise?, attended.watching uncancelled patient undone]
  simp [Session.watch?_eq_none_iff, uncancelled, Session.isIdle_eq_false patient]

/-- A session that nobody listens to is stuck when all that have ended were taken note of,
and at least one of its consumers waits for its stream while the others have ended or wait
as well. -/
theorem Attended.isStuck_iff (deaf : scene.session.crew.channel.receiving = false) :
    scene.IsStuck ↔
      scene.session.crew.unnoted = [] ∧
        (∃ consumer ∈ scene.session.crew.consumers, consumer.ending? = none) ∧
        ∀ consumer ∈ scene.session.crew.consumers, consumer.ending? = none →
          consumer.Waits scene.client := by
  have untold := (attended.undisturbed uncancelled patient).1
  have supervise := attended.supervise?_eq_none_iff uncancelled patient undone
  constructor
  · intro stuck
    obtain ⟨ended, unnoted⟩ := (supervise _).mp (stuck scene.now (Nat.le_refl _)).2
    refine ⟨unnoted, Crew.isOver_eq_false_iff.mp ended, fun consumer member unended => ?_⟩
    have idle (now : Nat) (later : scene.now ≤ now) :
        consumer.step? (scene.session.crew.around scene.client scene.store now) = none :=
      workAt?_eq_none_iff.mp (stuck now later).1 consumer member
    rcases Consumer.step?_eq_none_iff.mp (idle scene.now (Nat.le_refl _)) with
      ⟨ending, phase⟩ | ⟨-, waits | ⟨bounds, stream, wake, phase, -⟩ | ⟨_, _, _, _, -, heard, -⟩⟩
    · rw [Consumer.ending?, phase] at unended
      cases unended
    · exact waits
    · -- the clock wakes one who rests
      have wakes : Consumer.Move (scene.session.crew.around scene.client scene.store
          (max scene.now wake)) consumer _ :=
        .woke untold phase (Nat.le_max_right _ _)
      have steps := Consumer.step?_of_move wakes
      rw [idle _ (Nat.le_max_left _ _)] at steps
      cases steps
    · exact absurd (heard.symm.trans deaf) (by simp)
  · rintro ⟨unnoted, unended, waiting⟩ now later
    refine ⟨workAt?_eq_none_iff.mpr fun consumer member => ?_,
      (supervise now).mpr ⟨Crew.isOver_eq_false_iff.mpr unended, unnoted⟩⟩
    apply Consumer.step?_eq_none_iff.mpr
    cases ended : consumer.ending? with
    | some ending => exact .inl ⟨ending, Consumer.phase_of_ending? ended⟩
    | none => exact .inr ⟨untold, .inl (waiting consumer member ended)⟩

/-- When nobody else does anything, only the clock goes on in a session that is stuck. -/
theorem Attended.eq_of_stuck (stuck : scene.IsStuck)
    (turn : Turn (fun _ _ => False) scene after) (still : after.session.cancelled = false) :
    ∃ now ≥ scene.now, after = { scene with now } := by
  have watching := attended.watching uncancelled patient undone
  have idle := stuck scene.now (Nat.le_refl _)
  obtain ⟨ended, unnoted⟩ :=
    (attended.supervise?_eq_none_iff uncancelled patient undone scene.now).mp idle.2
  cases turn with
  | @work index _ worked =>
      rw [idle.1 index] at worked
      cases worked
  | supervise supervised =>
      cases supervised with
      | noted undone joined =>
          rw [Session.join?_eq_none_iff.mpr unnoted] at joined
          cases joined
      | completed watching settled =>
          rw [Crew.isSettled, ended] at settled
          cases settled
      | told watching why =>
          rcases why with cancelled | late
          · exact absurd (cancelled.symm.trans uncancelled) (by simp)
          · rw [Session.isIdle_eq_false patient] at late
            cases late
      | drained draining settled =>
          rw [watching] at draining
          cases draining
      | gaveUp draining late aborted =>
          rw [watching] at draining
          cases draining
  | pass later => exact ⟨_, later, rfl⟩
  | cancel => cases still
  | change changed => exact changed.elim

end Stuck

/-- No step changes the settings of a session. -/
theorem settings_eq_of_reaches (runs : ReflTransGen (Step others) scene after) :
    after.session.settings = scene.session.settings := by
  induction runs with
  | refl => rfl
  | tail _ step ih =>
      rcases step.work_or_kept with ⟨index, consumer, outcome, works, rfl⟩ | kept
      · exact ih
      · exact kept.settings.trans ih

/-- A session that was asked to stop stays so. -/
theorem Step.uncancelled (step : Step others scene after)
    (still : after.session.cancelled = false) :
    scene.session.cancelled = false := by
  cases step with
  | turn turn =>
      cases turn with
      | work worked =>
          rcases workAt?_eq_some_iff.mp worked with ⟨consumer, outcome, -, rfl⟩
          exact still
      | supervise supervised =>
          cases supervised with
          | noted undone joined => exact (Session.signals_of_join? joined).2.1.symm.trans still
          | _ => exact still
      | pass later => exact still
      | cancel => cases still
      | change changed => exact still
  | receive receives =>
      rcases receive?_eq_some_iff.mp receives with ⟨event, rest, -, rfl⟩
      exact still
  | hangUp => exact still
  | commit stamp member =>
      rw [session_commit] at still
      exact still

theorem uncancelled_of_reaches (runs : ReflTransGen (Step others) scene after)
    (still : after.session.cancelled = false) : scene.session.cancelled = false := by
  induction runs with
  | refl => exact still
  | tail _ step ih => exact ih (step.uncancelled still)

end Scene

end TopicReplay
