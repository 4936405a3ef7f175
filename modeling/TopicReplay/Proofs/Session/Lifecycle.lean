import TopicReplay.Proofs.Session.Calls
import TopicReplay.Proofs.Session.Noted

/-!
# The lifecycle of a session

However many calls start a session and whatever happens meanwhile, the stages that are
written go forward: from idle to fetching metadata, and from there to closed, by way of
running and perhaps of draining if the session was launched. One call at most is let in, and
how far it has come says at which stage the session stands, what its supervisor does and
whether it has consumers.
-/

namespace TopicReplay

open Broker (Client)
open Relation (ReflTransGen)
open Store (OffsetStore)

namespace Lifecycle

end Lifecycle

namespace Session

variable {β σ : Type}

/-- Whether a session has no consumers and has never had any. -/
structure Unmanned (session : Session σ) : Prop where
  consumers : session.crew.consumers = []
  unnoted : session.crew.unnoted = []
  stop : session.crew.stop = false
  outcomes : session.outcomes = .empty

/-- Whether a session has no consumers and nobody to supervise them at a stage. -/
structure Vacant (session : Session σ) (stage : Lifecycle) : Prop where
  unmanned : session.Unmanned
  supervisor : session.supervisor = .absent
  lifecycle : session.lifecycle = stage

/-- What must have been so when a session that was running ended for a reason. -/
def Excuses (session : Session σ) : Reason → Prop
  | .completed => False
  | .cancelled => session.cancelled = true
  | .idleTimeout => True

theorem Excuses.mono {session after : Session σ} {reason : Reason}
    (excuses : session.Excuses reason)
    (cancelled : session.cancelled = true → after.cancelled = true) : after.Excuses reason := by
  cases reason with
  | completed => exact excuses
  | cancelled => exact cancelled excuses
  | idleTimeout => trivial

theorem Warrants.excuses {session : Session σ} {now : Nat} {reason : Reason}
    (warrants : session.Warrants now reason) : session.Excuses reason := by
  cases reason with
  | completed => exact warrants
  | cancelled => exact warrants
  | idleTimeout => trivial

/-- Where a session stands that was launched, by what its supervisor does. -/
def Governed (session : Session σ) (written : List Lifecycle) : Supervisor → Prop
  | .absent => False
  | .watching => session.lifecycle = .running ∧ session.crew.stop = false ∧
      written = [.fetchingMetadata, .running]
  | .draining reason _ => session.lifecycle = .draining ∧ session.Excuses reason ∧
      written = [.fetchingMetadata, .running, .draining]
  | .done summary => session.lifecycle = .closed ∧
      (summary.reason = .completed ∧ session.crew.stop = false ∧
          written = [.fetchingMetadata, .running, .closed] ∨
        session.Excuses summary.reason ∧
          written = [.fetchingMetadata, .running, .draining, .closed])

/-- Where a session stands, by how far the call has come that was let in. -/
def Stands (session : Session σ) (written : List Lifecycle) : Call → Prop
  | .waiting _ | .refused _ => False
  | .admitted _ => session.Vacant .idle ∧ written = []
  | .planning _ _ => session.Vacant .fetchingMetadata ∧ written = [.fetchingMetadata]
  | .failed _ => session.Vacant .closed ∧ written = [.fetchingMetadata, .closed]
  | .endedEarly => session.Unmanned ∧ session.supervisor = .done { reason := .cancelled } ∧
      session.cancelled = true ∧ session.lifecycle = .closed ∧
      written = [.fetchingMetadata, .closed]
  | .launched _ => session.Governed written session.supervisor

end Session

namespace Consumer

variable {β σ ρ : Type} [Client β σ] [OffsetStore ρ] {around : Surroundings β ρ}
  {consumer : Consumer σ} {outcome : Outcome β σ}

/-- A consumer ends as cancelled only if it was told to stop, or if nobody receives. -/
theorem Move.spoilt_of_cancelled (move : Move around consumer outcome)
    (ended : outcome.consumer.ending? = some (.finished .cancelled)) :
    ¬(around.stop = false ∧ around.channel.receiving = true) := by
  cases move with
  | cancelled going told => simp [told]
  | unheard untold phase deaf => simp [deaf]
  | _ => simp [ending?] at ended

end Consumer

namespace Scene

variable {β σ ρ : Type} [Client β σ] [OffsetStore ρ] {others : β → β → Prop}
  {scene after : Scene β σ ρ}

/-! ## Nobody is cancelled without cause -/

/-- Whether no consumer was cancelled and taken note of as such, as long as consumers were not
told to stop and somebody receives. -/
structure Heeded (scene : Scene β σ ρ) : Prop where
  consumers : scene.session.crew.stop = false → scene.session.crew.channel.receiving = true →
    ∀ consumer ∈ scene.session.crew.consumers, consumer.ending? ≠ some (.finished .cancelled)
  outcomes : scene.session.crew.stop = false → scene.session.crew.channel.receiving = true →
    ∀ place, scene.session.outcomes.get? place ≠ some (.finished .cancelled)

omit [Client β σ] [OffsetStore ρ] in
theorem Heeded.of_eq (heeded : scene.Heeded)
    (consumers : after.session.crew.consumers = scene.session.crew.consumers)
    (outcomes : after.session.outcomes = scene.session.outcomes)
    (stop : after.session.crew.stop = false → scene.session.crew.stop = false)
    (receiving : after.session.crew.channel.receiving = true →
      scene.session.crew.channel.receiving = true) : after.Heeded where
  consumers untold heard := by
    rw [consumers]
    exact heeded.consumers (stop untold) (receiving heard)
  outcomes untold heard := by
    rw [outcomes]
    exact heeded.outcomes (stop untold) (receiving heard)

theorem Heeded.work (heeded : scene.Heeded) {index : Nat} {consumer : Consumer σ}
    {outcome : Consumer.Outcome β σ} (works : scene.Works index consumer outcome) :
    (scene.work index consumer outcome).Heeded where
  consumers untold heard other member := by
    rw [stop_work] at untold
    rw [receiving_work] at heard
    rw [consumers_work] at member
    rcases List.mem_or_eq_of_mem_set member with old | rfl
    · exact heeded.consumers untold heard other old
    · exact fun ended => works.moves.spoilt_of_cancelled ended ⟨untold, heard⟩
  outcomes untold heard := by
    rw [stop_work] at untold
    rw [receiving_work] at heard
    exact heeded.outcomes untold heard

omit [Client β σ] [OffsetStore ρ] in
/-- A consumer that was not cancelled is not taken note of as cancelled. -/
theorem Heeded.noteAt (heeded : scene.Heeded) (index : Nat) (rest : List Nat) :
    Heeded { scene with session := scene.session.noteAt index rest } where
  consumers untold heard := by
    simp only [Session.stop_noteAt, Session.channel_noteAt] at untold heard
    rw [Session.consumers_noteAt]
    exact heeded.consumers untold heard
  outcomes untold heard place := by
    simp only [Session.stop_noteAt, Session.channel_noteAt] at untold heard
    intro kept
    unfold Session.noteAt at kept
    cases found : scene.session.crew.consumers[index]? with
    | none =>
        rw [found] at kept
        exact heeded.outcomes untold heard place kept
    | some consumer =>
        rw [found] at kept
        rcases Session.get?_outcomes_note_cases _ _ _ kept with ending | before
        · have ended : consumer.ending? = some (.finished .cancelled) := by
            cases ended : consumer.ending? with
            | none => simp [ended, Ending.outcome?] at ending
            | some e => cases e <;> simp_all [Ending.outcome?]
          exact heeded.consumers untold heard consumer (List.mem_of_getElem? found) ended
        · exact heeded.outcomes untold heard place before

theorem Heeded.step (heeded : scene.Heeded) (step : Step others scene after) : after.Heeded := by
  rcases step.work_or_supervise_or_aside with
    ⟨index, worked⟩ | ⟨session, client, supervised, rfl⟩ | aside
  · rcases workAt?_eq_some_iff.mp worked with ⟨consumer, outcome, works, rfl⟩
    exact heeded.work works
  · have kept := supervised.kept
    cases supervised with
    | noted undone joined =>
        rcases Session.join?_eq_some_iff.mp joined with ⟨index, rest, -, rfl⟩
        exact heeded.noteAt index rest
    | completed watching settled => exact heeded.of_eq rfl rfl id id
    | told watching why => exact ⟨nofun, nofun⟩
    | drained draining settled => exact heeded.of_eq rfl rfl id id
    | gaveUp draining late aborted =>
        refine ⟨fun untold heard consumer member => ?_, fun untold heard => ?_⟩
        · rcases kept.mem_or_retired member with old | ⟨old, oldMember, rfl⟩
          · exact heeded.consumers (kept.untold untold) (kept.channel ▸ heard) consumer old
          · unfold Crew.retire
            split
            · exact heeded.consumers (kept.untold untold) (kept.channel ▸ heard) old oldMember
            · simp
        · exact heeded.outcomes (kept.untold untold) (kept.channel ▸ heard)
  · have unmoved := aside.unmoved
    exact heeded.of_eq unmoved.consumers unmoved.outcomes (unmoved.stop ▸ id) unmoved.receiving

/-! ## Where a session stands -/

/-- Nothing happens to a session without consumers whose supervisor has nothing to do but what
happens aside. -/
theorem Step.unmoved_of_unmanned (step : Step others scene after)
    (unmanned : scene.session.Unmanned)
    (resting : scene.session.supervisor = .absent ∨
      ∃ summary, scene.session.supervisor = .done summary) : scene.Unmoved after := by
  rcases step.work_or_supervise_or_aside with
    ⟨index, worked⟩ | ⟨session, client, supervised, rfl⟩ | aside
  · rcases workAt?_eq_some_iff.mp worked with ⟨consumer, outcome, works, -⟩
    have found := works.found
    simp [unmanned.consumers] at found
  · cases supervised with
    | noted undone joined =>
        rw [Session.join?_eq_none_iff.mpr unmanned.unnoted] at joined
        cases joined
    | completed watching settled => simp [watching] at resting
    | told watching why => simp [watching] at resting
    | drained draining settled => simp [draining] at resting
    | gaveUp draining late aborted => simp [draining] at resting
  · exact aside.unmoved

omit [Client β σ] [OffsetStore ρ] in
theorem Unmoved.unmanned (unmoved : scene.Unmoved after) (unmanned : scene.session.Unmanned) :
    after.session.Unmanned where
  consumers := unmoved.consumers.trans unmanned.consumers
  unnoted := unmoved.unnoted.trans unmanned.unnoted
  stop := unmoved.stop.trans unmanned.stop
  outcomes := unmoved.outcomes.trans unmanned.outcomes

omit [Client β σ] [OffsetStore ρ] in
theorem Unmoved.writes_eq_nil (unmoved : scene.Unmoved after) :
    scene.session.writes after.session = [] := by
  rw [Session.writes, if_pos unmoved.supervisor]

/-- A supervisor that has drawn up the summary, or has nobody to take note of, does nothing. -/
theorem Step.still_of_resting (step : Step others scene after)
    (resting : (∃ summary, scene.session.supervisor = .done summary) ∨
      scene.session.supervisor = .absent ∧ scene.session.crew.unnoted = []) :
    after.session.supervisor = scene.session.supervisor ∧
      after.session.lifecycle = scene.session.lifecycle := by
  rcases step.work_or_supervise_or_aside with
    ⟨index, worked⟩ | ⟨session, client, supervised, rfl⟩ | aside
  · rcases workAt?_eq_some_iff.mp worked with ⟨consumer, outcome, -, rfl⟩
    exact ⟨rfl, rfl⟩
  · cases supervised with
    | noted undone joined =>
        rcases resting with ⟨summary, done⟩ | ⟨-, unnoted⟩
        · simp [Session.summary?, done] at undone
        · rw [Session.join?_eq_none_iff.mpr unnoted] at joined
          cases joined
    | completed watching settled => simp [watching] at resting
    | told watching why => simp [watching] at resting
    | drained draining settled => simp [draining] at resting
    | gaveUp draining late aborted => simp [draining] at resting
  · exact ⟨aside.unmoved.supervisor, aside.unmoved.lifecycle⟩

/-- Whoever has asked a session to stop has done so for good. -/
theorem Step.cancelled (step : Step others scene after) (told : scene.session.cancelled = true) :
    after.session.cancelled = true := by
  rcases step.work_or_supervise_or_aside with
    ⟨index, worked⟩ | ⟨session, client, supervised, rfl⟩ | aside
  · rcases workAt?_eq_some_iff.mp worked with ⟨consumer, outcome, -, rfl⟩
    exact told
  · cases supervised with
    | noted undone joined => exact (Session.signals_of_join? joined).2.1.trans told
    | _ => exact told
  · exact aside.unmoved.cancelled told

theorem Step.started_eq (step : Step others scene after) :
    after.session.started = scene.session.started := by
  rcases step.work_or_supervise_or_aside with
    ⟨index, worked⟩ | ⟨session, client, supervised, rfl⟩ | aside
  · rcases workAt?_eq_some_iff.mp worked with ⟨consumer, outcome, -, rfl⟩
    rfl
  · exact supervised.kept.started
  · exact aside.unmoved.started

/-- A session that is vacant stays so, and nothing is written. -/
theorem Step.vacant (step : Step others scene after) {stage : Lifecycle}
    (vacant : scene.session.Vacant stage) :
    after.session.Vacant stage ∧ scene.session.writes after.session = [] ∧
      scene.Unmoved after := by
  have unmoved := step.unmoved_of_unmanned vacant.unmanned (.inl vacant.supervisor)
  exact ⟨⟨unmoved.unmanned vacant.unmanned, unmoved.supervisor.trans vacant.supervisor,
    unmoved.lifecycle.trans vacant.lifecycle⟩, unmoved.writes_eq_nil, unmoved⟩

end Scene

namespace Session

variable {β σ : Type} {session after : Session σ} {written : List Lifecycle}

/-- Where a session stands depends on little of it. -/
theorem Governed.of_eq {supervisor : Supervisor} (governed : session.Governed written supervisor)
    (lifecycle : after.lifecycle = session.lifecycle) (stop : after.crew.stop = session.crew.stop)
    (cancelled : session.cancelled = true → after.cancelled = true) :
    after.Governed written supervisor := by
  cases supervisor with
  | absent => exact governed
  | watching => exact ⟨lifecycle.trans governed.1, stop.trans governed.2.1, governed.2.2⟩
  | draining reason deadline =>
      exact ⟨lifecycle.trans governed.1, governed.2.1.mono cancelled, governed.2.2⟩
  | done summary =>
      refine ⟨lifecycle.trans governed.1, governed.2.imp ?_ ?_⟩
      · rintro ⟨complete, untold, path⟩
        exact ⟨complete, stop.trans untold, path⟩
      · rintro ⟨because, path⟩
        exact ⟨because.mono cancelled, path⟩

variable [Client β σ] {client clientAfter : β} {now : Nat}

/-- A supervisor writes the stage that it moves on to. -/
theorem Governed.supervised (governed : session.Governed written session.supervisor)
    (supervised : session.Supervised client now after clientAfter)
    (why : session.supervisor = .watching → ∀ reason deadline,
      after.supervisor = .draining reason deadline → session.Warrants now reason) :
    after.Governed (written ++ session.writes after) after.supervisor := by
  cases supervised with
  | noted undone joined =>
      rcases join?_eq_some_iff.mp joined with ⟨index, rest, -, rfl⟩
      rw [writes, supervisor_noteAt, if_pos rfl, List.append_nil]
      apply governed.of_eq
      · exact lifecycle_noteAt _ _ _
      · exact stop_noteAt _ _ _
      · rw [cancelled_noteAt]
        exact id
  | completed watching settled =>
      rw [watching] at governed
      obtain ⟨-, untold, rfl⟩ := governed
      refine ⟨rfl, .inl ⟨rfl, untold, ?_⟩⟩
      simp [writes, watching, close]
  | @told reason watching _ =>
      have warrants := why watching reason _ rfl
      rw [watching] at governed
      obtain ⟨-, -, rfl⟩ := governed
      refine ⟨rfl, ?_, ?_⟩
      · exact warrants.excuses
      · simp [writes, watching, drain]
  | drained draining settled =>
      rw [draining] at governed
      obtain ⟨-, excuses, rfl⟩ := governed
      refine ⟨rfl, .inr ⟨excuses, ?_⟩⟩
      simp [writes, draining, close]
  | gaveUp draining late aborted =>
      rw [draining] at governed
      obtain ⟨-, excuses, rfl⟩ := governed
      refine ⟨rfl, .inr ⟨excuses, ?_⟩⟩
      simp [writes, draining, close]

end Session

namespace Scene

variable {β σ ρ : Type} [Client β σ] [OffsetStore ρ] {others : β → β → Prop}
  {scene after : Scene β σ ρ} {written : List Lifecycle}

/-- Wherever a session stands, it still does so after a step of its scene. -/
theorem Warranted.stands (warranted : Warranted others scene after) {call : Call}
    (stands : scene.session.Stands written call) :
    after.session.Stands (written ++ scene.session.writes after.session) call := by
  have stays {stage : Lifecycle} (vacant : scene.session.Vacant stage) :
      after.session.Vacant stage ∧ written ++ scene.session.writes after.session = written := by
    obtain ⟨still, silent, -⟩ := warranted.step.vacant vacant
    exact ⟨still, by rw [silent, List.append_nil]⟩
  cases call with
  | waiting topics => exact stands
  | refused e => exact stands
  | admitted topics =>
      obtain ⟨still, same⟩ := stays stands.1
      exact ⟨still, same.trans stands.2⟩
  | planning todo planned =>
      obtain ⟨still, same⟩ := stays stands.1
      exact ⟨still, same.trans stands.2⟩
  | failed e =>
      obtain ⟨still, same⟩ := stays stands.1
      exact ⟨still, same.trans stands.2⟩
  | endedEarly =>
      obtain ⟨unmanned, done, told, lifecycle, path⟩ := stands
      have unmoved := warranted.step.unmoved_of_unmanned unmanned (.inr ⟨_, done⟩)
      rw [unmoved.writes_eq_nil, List.append_nil]
      exact ⟨unmoved.unmanned unmanned, unmoved.supervisor.trans done, unmoved.cancelled told,
        unmoved.lifecycle.trans lifecycle, path⟩
  | launched planned =>
      have governed : scene.session.Governed written scene.session.supervisor := stands
      rcases warranted.step.work_or_supervise_or_aside with
        ⟨index, worked⟩ | ⟨session, client, supervised, rfl⟩ | aside
      · rcases workAt?_eq_some_iff.mp worked with ⟨consumer, outcome, works, rfl⟩
        have silent : scene.session.writes (scene.work index consumer outcome).session = [] :=
          if_pos rfl
        rw [silent, List.append_nil]
        exact governed.of_eq rfl (stop_work _ _ _ _) id
      · exact governed.supervised supervised warranted.why
      · have unmoved := aside.unmoved
        rw [unmoved.writes_eq_nil, List.append_nil]
        change after.session.Governed written after.session.supervisor
        rw [unmoved.supervisor]
        exact governed.of_eq unmoved.lifecycle unmoved.stop unmoved.cancelled

end Scene

end TopicReplay
