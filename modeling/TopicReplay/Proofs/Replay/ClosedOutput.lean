import TopicReplay.Proofs.Broker.Sound
import TopicReplay.Proofs.Replay.Record
import TopicReplay.Proofs.Session.Stuck

/-!
# Replays whose output was closed

A replay whose output was closed waits for its session to end, and nobody tells the session
to. Consumers that have an event to deliver end by themselves, since there is no receiver any
more, but one that waits for its stream never gets as far. The replay hangs as soon as all
consumers that go on wait for their streams.
-/

namespace TopicReplay

open Broker (Client OrderedClient)
open Relation (ReflTransGen)
open Store (OffsetStore)

namespace Stage

variable {β σ ρ ω φ : Type} [Client β σ] [OffsetStore ρ] [Writer ω] [Formatter φ]
  {others : β → β → Prop} {stage after : Stage β σ ρ ω φ}

/-- Whether nobody on a stage has a step, whatever the clock will say: no consumer, not the
supervisor, and not the replay. -/
def IsStuck (stage : Stage β σ ρ ω φ) : Prop :=
  stage.scene.IsStuck ∧
    ∀ stamp, stage.replay.step? stage.scene.session stage.scene.store stamp = none

/-- What is known of the session of a replay: it is attended until the replay is done, and a
replay that waits for it has taken the receiver away. It waits for a session that goes on
only if an event was refused. -/
structure Tended (stage : Stage β σ ρ ω φ) : Prop where
  attended : stage.replay.result? = none → stage.scene.Attended
  deaf : stage.replay.phase = .awaiting → stage.scene.session.crew.channel.receiving = false
  emptied : stage.replay.phase = .awaiting → stage.refused = [] →
    stage.scene.session.crew.isOver = true

omit [OffsetStore ρ] [Writer ω] [Formatter φ] in
theorem tended_start (settings : Settings) (born : Nat) (cancelled : Bool)
    (topics : Session.Topics) (now : Nat) (client : β) (store : ρ) (format : φ) (commits : Bool)
    (writer : ω) :
    Tended (start settings born cancelled topics now client store format commits writer) := by
  unfold start
  rcases started : Scene.start settings born cancelled topics now client store with ⟨result, scene⟩
  cases result with
  | ok => exact ⟨fun _ => Scene.attended_start started, nofun, nofun⟩
  | error e => exact ⟨nofun, nofun, nofun⟩

/-- A replay that is done has no step. -/
theorem result?_of_move {replay next : Replay ω φ} {session : Session σ} {store : ρ}
    {stamp : Instant} {deed : Replay.Deed} {rest : Session σ × ρ}
    (moves : replay.Move session store stamp deed (next, rest)) : replay.result? = none := by
  cases moves <;> simp [Replay.result?, *]

/-- A replay that comes to wait for its session has taken the receiver away, because an event
was refused or because all consumers have ended. -/
theorem of_awaiting {replay next : Replay ω φ} {session rest : Session σ} {store stored : ρ}
    {stamp : Instant} {deed : Replay.Deed}
    (moves : replay.Move session store stamp deed (next, rest, stored))
    (awaiting : next.phase = .awaiting) :
    rest.crew.channel.receiving = false ∧ (deed.refused ≠ [] ∨ rest.crew.isOver = true) := by
  cases moves with
  | wrote phase receives prints writes quiet => cases phase.symm.trans awaiting
  | committed phase receives prints writes asked commits => cases phase.symm.trans awaiting
  | uncommitted phase receives prints writes asked commits => cases phase.symm.trans awaiting
  | unprinted phase receives unprintable => cases awaiting
  | broke phase receives prints breaks => cases awaiting
  | closed phase receives prints closes =>
      rw [Replay.session_complete]
      exact ⟨rfl, .inl (by simp)⟩
  | exhausted phase none dry =>
      rw [Replay.session_complete]
      exact ⟨rfl, .inr (Bool.and_eq_true_iff.mp dry).1⟩
  | finished phase drawn => cases awaiting

theorem Tended.step (tended : stage.Tended) (step : Step others stage after) : after.Tended := by
  have attended (undone : stage.replay.result? = none) : after.scene.Attended :=
    (tended.attended undone).run step.reaches_scene
  cases step with
  | beside turn =>
      refine ⟨attended, fun awaiting => ?_, fun awaiting unrefused => ?_⟩
      · rw [turn.receiving_eq]
        exact tended.deaf awaiting
      · exact (turn.ceased (tended.emptied awaiting unrefused)).1
  | replay stamp does steps =>
      have moves := Replay.move_of_step? steps
      rw [does] at moves
      refine ⟨fun _ => attended (result?_of_move moves),
        fun awaiting => (of_awaiting moves awaiting).1, fun awaiting unrefused => ?_⟩
      rcases (of_awaiting moves awaiting).2 with refused | ended
      · exact absurd (List.append_eq_nil_iff.mp unrefused).2 refused
      · exact ended

theorem Tended.run (tended : stage.Tended) (runs : ReflTransGen (Step others) stage after) :
    after.Tended := by
  induction runs with
  | refl => exact tended
  | tail _ step ih => exact ih.step step

/-- When a replay that waits for its session is stuck. -/
theorem Tended.isStuck_iff (tended : stage.Tended) (drawn : stage.scene.Drawn)
    (patient : stage.scene.session.settings.idleTimeout = none)
    (uncancelled : stage.scene.session.cancelled = false)
    (awaiting : stage.replay.phase = .awaiting) :
    stage.IsStuck ↔
      stage.scene.session.crew.unnoted = [] ∧
        (∃ consumer ∈ stage.scene.session.crew.consumers, consumer.ending? = none) ∧
        ∀ consumer ∈ stage.scene.session.crew.consumers, consumer.ending? = none →
          consumer.Waits stage.scene.client := by
  have attended := tended.attended (by rw [Replay.result?, awaiting])
  have deaf := tended.deaf awaiting
  have idle : (∀ stamp, stage.replay.step? stage.scene.session stage.scene.store stamp = none) ↔
      stage.scene.session.summary? = none := by
    simp [Replay.step?, awaiting]
  constructor
  · rintro ⟨stuck, still⟩
    exact (attended.isStuck_iff uncancelled patient (idle.mp still) deaf).mp stuck
  · rintro ⟨unnoted, going, waiting⟩
    have undone : stage.scene.session.summary? = none := by
      rw [Option.eq_none_iff_forall_ne_some]
      intro summary found
      have unended := Crew.isOver_eq_false_iff.mpr going
      rw [(drawn summary found).1] at unended
      cases unended
    exact ⟨(attended.isStuck_iff uncancelled patient undone deaf).mpr ⟨unnoted, going, waiting⟩,
      idle.mpr undone⟩

/-- When nobody else does anything, only the clock goes on on a stage that is stuck. -/
theorem Tended.eq_of_stuck (tended : stage.Tended)
    (patient : stage.scene.session.settings.idleTimeout = none)
    (uncancelled : stage.scene.session.cancelled = false)
    (awaiting : stage.replay.phase = .awaiting) (stuck : stage.IsStuck)
    (step : Step (fun _ _ => False) stage after) (still : after.scene.session.cancelled = false) :
    ∃ now ≥ stage.scene.now, after = { stage with scene := { stage.scene with now } } := by
  have attended := tended.attended (by rw [Replay.result?, awaiting])
  cases step with
  | beside turn =>
      have undone : stage.scene.session.summary? = none := by
        simpa [Replay.step?, awaiting] using stuck.2
      rcases attended.eq_of_stuck uncancelled patient undone stuck.1 turn still with
        ⟨now, later, rfl⟩
      exact ⟨now, later, rfl⟩
  | replay stamp does steps =>
      rw [stuck.2 stamp] at steps
      cases steps

/-- A stage stays stuck for as long as nobody else does anything. -/
theorem Tended.stays_stuck (tended : stage.Tended)
    (patient : stage.scene.session.settings.idleTimeout = none)
    (awaiting : stage.replay.phase = .awaiting) (stuck : stage.IsStuck)
    (runs : ReflTransGen (Step fun _ _ => False) stage after)
    (still : after.scene.session.cancelled = false) :
    ∃ now ≥ stage.scene.now, after = { stage with scene := { stage.scene with now } } := by
  induction runs with
  | refl => exact ⟨stage.scene.now, Nat.le_refl _, rfl⟩
  | tail before step ih =>
      have uncancelled := Scene.uncancelled_of_reaches step.reaches_scene still
      rcases ih uncancelled with ⟨now, later, rfl⟩
      have stillStuck : IsStuck { stage with scene := { stage.scene with now } } :=
        ⟨fun next after => stuck.1 next (Nat.le_trans later after), stuck.2⟩
      rcases (tended.run before).eq_of_stuck patient uncancelled awaiting stillStuck step still with
        ⟨next, after, rfl⟩
      exact ⟨next, Nat.le_trans later after, rfl⟩

section Start

variable [OrderedClient β σ] {settings : Settings} {born now : Nat} {cancelled : Bool}
  {topics : Session.Topics} {client : β} {store : ρ} {format : φ} {commits : Bool} {writer : ω}
  (sound : OrderedClient.Sound client)
  (runs : ReflTransGen (Step others)
    (start settings born cancelled topics now client store format commits writer) stage)

include sound runs

theorem tended_of_start :
    stage.Tended ∧ stage.scene.Drawn ∧ stage.scene.session.settings = settings := by
  obtain ⟨result, scene, phase, started, stage_eq, -⟩ :=
    start_cases settings born cancelled topics now client store format commits writer
  have tended := (tended_start settings born cancelled topics now client store format commits
    writer).run runs
  have reaches := reaches_scene runs
  rw [stage_eq] at reaches
  have fresh := (Scene.fresh_start sound started).1
  exact ⟨tended, fresh.drawn.run reaches,
    (Scene.settings_eq_of_reaches reaches).trans fresh.settings_eq⟩

/-- A replay without an idle timeout that waits for a session which nobody has asked to stop is
stuck exactly when all consumers that go on wait for their streams and the others were taken
note of. That happens only where the output was closed. The replay then never returns, unless
somebody changes the logs or asks the session to stop. -/
theorem awaiting_stuck_iff (patient : settings.idleTimeout = none)
    (uncancelled : stage.scene.session.cancelled = false)
    (awaiting : stage.replay.phase = .awaiting) :
    (stage.IsStuck ↔
      stage.scene.session.crew.unnoted = [] ∧
        (∃ consumer ∈ stage.scene.session.crew.consumers, consumer.ending? = none) ∧
        ∀ consumer ∈ stage.scene.session.crew.consumers, consumer.ending? = none →
          consumer.Waits stage.scene.client) ∧
    (stage.IsStuck → stage.refused ≠ [] ∧
      ∀ after, ReflTransGen (Step fun _ _ => False) stage after →
        after.scene.session.cancelled = false →
          ∃ now ≥ stage.scene.now, after = { stage with scene := { stage.scene with now } }) := by
  obtain ⟨tended, drawn, rfl⟩ := tended_of_start sound runs
  have stuck_iff := tended.isStuck_iff drawn patient uncancelled awaiting
  refine ⟨stuck_iff, fun stuck => ⟨fun unrefused => ?_, fun after later still =>
    tended.stays_stuck patient awaiting stuck later still⟩⟩
  obtain ⟨-, going, -⟩ := stuck_iff.mp stuck
  have unended := Crew.isOver_eq_false_iff.mpr going
  rw [tended.emptied awaiting unrefused] at unended
  cases unended

end Start

section Hung

open Broker (Cursor LogBroker)
open Store (MemoryStore)

/-- A replay of two partitions without a stop, whose output is closed from the beginning. -/
def closedOutput : Stage LogBroker Cursor MemoryStore LineWriter OutputFormat :=
  start {} 0 false (OrderedMap.empty.insert "orders" { common := ⟨.oldest, none⟩ }) 0 .orders {}
    .plain true { limit := some (0, .closed "broken pipe") }

/-- Both partitions are read to their ends before the first line is written. -/
def hungSchedule : List Scene.Pick :=
  [.work 0, .work 0, .work 0, .work 0, .work 0, .work 0, .work 1, .work 1, .work 1, .work 1, .read]

/-- The first line is refused while both consumers wait for their streams. -/
theorem exists_hung :
    ∃ stage, closedOutput.play? hungSchedule = some stage ∧ stage.replay.phase = .awaiting ∧
      stage.refused.map (·.offset) = [0] ∧ stage.scene.session.cancelled = false ∧
      stage.scene.session.crew.unnoted = [] ∧
      (∃ consumer ∈ stage.scene.session.crew.consumers, consumer.ending? = none) ∧
      ∀ consumer ∈ stage.scene.session.crew.consumers, consumer.ending? = none →
        consumer.Waits stage.scene.client := by
  have seen : (closedOutput.play? hungSchedule).all (fun stage =>
      stage.replay.phase matches .awaiting) = true := by
    decide +kernel
  have facts : ∀ stage ∈ closedOutput.play? hungSchedule,
      stage.refused.map (·.offset) = [0] ∧ stage.scene.session.cancelled = false ∧
        stage.scene.session.crew.unnoted = [] ∧
        (∃ consumer ∈ stage.scene.session.crew.consumers, consumer.ending? = none) ∧
        ∀ consumer ∈ stage.scene.session.crew.consumers, consumer.ending? = none →
          consumer.Waits stage.scene.client := by
    decide +kernel
  obtain ⟨stage, played⟩ : ∃ stage, closedOutput.play? hungSchedule = some stage :=
    Option.isSome_iff_exists.mp (by decide +kernel)
  rw [played] at seen
  refine ⟨stage, played, ?_, facts stage played⟩
  cases phase : stage.replay.phase with
  | awaiting => rfl
  | _ => simp [phase] at seen

/-- The replay hangs for ever. -/
theorem awaiting_stuck_iff_hung :
    ∃ stage, closedOutput.play? hungSchedule = some stage ∧ stage.IsStuck ∧
      stage.refused.map (·.offset) = [0] ∧
      ∀ after, ReflTransGen (Step fun _ _ => False) stage after →
        after.scene.session.cancelled = false → after.replay.phase = .awaiting := by
  rcases exists_hung with ⟨stage, played, awaiting, refused, uncancelled, waiting⟩
  obtain ⟨stuck_iff, hangs⟩ := awaiting_stuck_iff LogBroker.sound_orders
    (reaches_of_play? LogBroker.Change played) rfl uncancelled awaiting
  have stuck := stuck_iff.mpr waiting
  refine ⟨stage, played, stuck, refused, fun after runs still => ?_⟩
  rcases (hangs stuck).2 after runs still with ⟨now, -, rfl⟩
  exact awaiting

/-- A replay whose output was closed can be stuck. -/
theorem exists_stuck_closed :
    ¬∀ (settings : Settings) (topics : Session.Topics) (client : LogBroker) (store : MemoryStore)
      (commits : Bool) (writer : LineWriter)
      (stage : Stage LogBroker Cursor MemoryStore LineWriter OutputFormat),
      ReflTransGen LogBroker.Change {} client →
      ReflTransGen (Step LogBroker.Change)
        (start settings 0 false topics 0 client store .plain commits writer) stage →
      settings.idleTimeout = none → stage.scene.session.cancelled = false →
      (∃ n text, writer.limit = some (n, .closed text)) → stage.refused ≠ [] →
      stage.replay.result? = none → ¬stage.IsStuck := by
  intro never
  rcases exists_hung with ⟨stage, played, awaiting, refused, uncancelled, waiting⟩
  have runs := reaches_of_play? LogBroker.Change played
  obtain ⟨tended, drawn, settings_eq⟩ := tended_of_start LogBroker.sound_orders runs
  have patient : stage.scene.session.settings.idleTimeout = none := by rw [settings_eq]
  apply never {} _ _ {} true _ stage LogBroker.changes_orders runs rfl uncancelled ⟨0, _, rfl⟩
  · intro unrefused
    rw [unrefused] at refused
    cases refused
  · rw [Replay.result?, awaiting]
  · exact (tended.isStuck_iff drawn patient uncancelled awaiting).mpr waiting

end Hung

end Stage

end TopicReplay
