import TopicReplay.Proofs.Broker.Sound
import TopicReplay.Proofs.Consumer.Fate
import TopicReplay.Proofs.Session.Fair
import TopicReplay.Proofs.Session.Lifecycle
import TopicReplay.Proofs.Session.Stuck

/-!
# What it takes to be idle

A session ends because it is idle when nothing was put into its channel for as long as its
settings say. Nothing else counts: not whether messages arrive, nor whether consumers have
events in their hands for which the channel has no room. So a reader who takes nothing for
long enough ends a session that has plenty to deliver.

What happens is looked at from its end. A scene that was reached tells when the last event
was sent, and that is all the supervisor goes by.

The main statement is `idle_timeout_iff_unsent`.
-/

namespace TopicReplay

open Broker (Client Cursor LogBroker)
open Relation (ReflTransGen)
open Store (OffsetStore)

namespace Consumer

variable {ρ : Type} [OffsetStore ρ] {around : Surroundings LogBroker ρ}
  {consumer : Consumer Cursor}

/-- Why a consumer that goes on lacks a step: it has nothing to come, it rests after an error,
or it has the next event of its fate in its hands while the channel is full. -/
inductive Lacks (consumer : Consumer Cursor) (around : Surroundings LogBroker ρ) : Prop where
  | nothing (fated : consumer.fate around.client around.store = {})
  | rest {bounds : Bounds} {cursor : Cursor} {wake : Nat}
      (phase : consumer.phase = .resting bounds cursor wake) (early : around.now < wake)
  | room {bounds : Bounds} {cursor : Cursor} {event : Event} {isLast : Bool}
      (phase : consumer.phase = .sending bounds cursor event isLast)
      (heard : around.channel.receiving = true) (full : around.channel.hasRoom = false)
      (next : (consumer.fate around.client around.store).events.head? = some event)

theorem lacks_of_step?_eq_none (still : consumer.step? around = none)
    (going : consumer.ending? = none) : consumer.Lacks around := by
  rcases step?_eq_none_iff.mp still with ⟨ending, ended⟩ | ⟨-, waits | rests | sends⟩
  · rw [ending?, ended] at going
    cases going
  · exact .nothing (fate_of_waits waits)
  · rcases rests with ⟨bounds, cursor, wake, phase, early⟩
    exact .rest phase early
  · rcases sends with ⟨bounds, cursor, event, isLast, phase, heard, full⟩
    exact .room phase heard full (by simp [fate, phase])

end Consumer

/-- Why a session has ended, or is about to. -/
def Supervisor.reason? : Supervisor → Option Reason
  | .draining reason _ => some reason
  | .done summary => some summary.reason
  | .absent | .watching => none

theorem Session.reason?_of_summary? {σ : Type} {session : Session σ} {summary : Summary}
    (found : session.summary? = some summary) :
    session.supervisor.reason? = some summary.reason := by
  unfold summary? at found
  split at found
  · rename_i done
    cases found
    rw [done, Supervisor.reason?]
  · cases found

namespace Scene

variable {β σ ρ : Type} [Client β σ] [OffsetStore ρ] {others : β → β → Prop}
  {begun scene after : Scene β σ ρ}

/-- Why a session is about to end was so before, or it has just been found out: all consumers
had ended, or there was a reason to tell them to stop. -/
theorem Warranted.reason?_or_watching (warranted : Warranted others scene after) {reason : Reason}
    (ends : after.session.supervisor.reason? = some reason) :
    scene.session.supervisor.reason? = some reason ∨
      scene.session.supervisor = .watching ∧
        (reason = .completed ∨ scene.session.Warrants scene.now reason) := by
  rcases warranted.step.work_or_supervise_or_aside with
    ⟨index, worked⟩ | ⟨session, client, supervised, rfl⟩ | aside
  · rcases workAt?_eq_some_iff.mp worked with ⟨consumer, outcome, -, rfl⟩
    exact .inl ends
  · cases supervised with
    | noted undone joined =>
        rw [Session.supervisor_of_join? joined] at ends
        exact .inl ends
    | completed watching settled =>
        cases ends
        exact .inr ⟨watching, .inl rfl⟩
    | told watching _ =>
        cases ends
        exact .inr ⟨watching, .inr (warranted.why watching _ _ rfl)⟩
    | drained draining settled =>
        cases ends
        left
        rw [draining]
        rfl
    | gaveUp draining late aborted =>
        cases ends
        left
        rw [draining]
        rfl
  · rw [aside.unmoved.supervisor] at ends
    exact .inl ends

/-- A session that is about to end because it was idle was found to be idle some time. -/
theorem exists_idle_of_reason? (fresh : begun.session.supervisor.reason? ≠ some .idleTimeout)
    (runs : ReflTransGen (Warranted others) begun scene)
    (ends : scene.session.supervisor.reason? = some .idleTimeout) :
    ∃ decision : Scene β σ ρ, ReflTransGen (Warranted others) begun decision ∧
      ReflTransGen (Warranted others) decision scene ∧
      decision.session.supervisor = .watching ∧ decision.session.isIdle decision.now = true := by
  induction runs with
  | refl => exact absurd ends fresh
  | @tail before scene earlier step ih =>
      rcases step.reason?_or_watching ends with still | ⟨watching, completed | idle⟩
      · rcases ih still with ⟨decision, first, later, found⟩
        exact ⟨decision, first, later.tail step, found⟩
      · cases completed
      · exact ⟨before, earlier, .single step, watching, idle⟩

/-! ## When something was sent last -/

omit [Client β σ] [OffsetStore ρ] in
/-- When the session saw activity last. -/
def lastActivity (scene : Scene β σ ρ) : Nat := scene.session.crew.stats.lastActivity

/-- A step sends nothing and is no activity, or it sends something at its time. -/
theorem Step.unsent_or_active (step : Step others scene after) :
    after.sent = scene.sent ∧ after.lastActivity = scene.lastActivity ∨
      scene.sent ≠ after.sent ∧ after.lastActivity = scene.now := by
  rcases step.work_or_kept with ⟨index, consumer, outcome, works, rfl⟩ | kept
  · rcases outcome with ⟨mover, client, emission⟩
    cases emission with
    | none => exact .inl ⟨List.append_nil _, rfl⟩
    | report e => exact .inl ⟨List.append_nil _, rfl⟩
    | delivery event => exact .inr ⟨by simp, rfl⟩
  · refine .inl ⟨kept.sent, ?_⟩
    rw [lastActivity, kept.stats, lastActivity]

theorem now_le_of_reaches (runs : ReflTransGen (Warranted others) scene after) :
    scene.now ≤ after.now := by
  induction runs with
  | refl => exact Nat.le_refl _
  | tail _ warranted ih => exact Nat.le_trans ih warranted.step.grows.now

/-- What was sent after a scene was sent at its time or later. -/
theorem sent_eq_or_le_lastActivity (runs : ReflTransGen (Warranted others) scene after) :
    scene.sent = after.sent ∨ scene.now ≤ after.lastActivity := by
  induction runs with
  | refl => exact .inl rfl
  | @tail before after earlier warranted ih =>
      rcases warranted.step.unsent_or_active with ⟨sent_eq, activity_eq⟩ | ⟨-, activity_eq⟩
      · rwa [sent_eq, activity_eq]
      · rw [activity_eq]
        exact .inr (now_le_of_reaches earlier)

/-- At the last activity of a session, unless there was none, something was sent. -/
theorem lastActivity_eq_or_sent (runs : ReflTransGen (Warranted others) begun scene) :
    scene.lastActivity = begun.lastActivity ∨
      ∃ middle : Scene β σ ρ, ReflTransGen (Warranted others) begun middle ∧
        ReflTransGen (Warranted others) middle scene ∧ middle.now = scene.lastActivity ∧
        middle.sent ≠ scene.sent := by
  induction runs with
  | refl => exact .inl rfl
  | @tail before scene earlier warranted ih =>
      rcases warranted.step.unsent_or_active with ⟨sent_eq, activity_eq⟩ | ⟨changed, activity_eq⟩
      · rw [sent_eq, activity_eq]
        rcases ih with none | ⟨middle, first, later, active, unlike⟩
        · exact .inl none
        · exact .inr ⟨middle, first, later.tail warranted, active, unlike⟩
      · exact .inr ⟨before, earlier, .single warranted, activity_eq.symm, changed⟩

/-- Whether a scene lies on the way from one to another, less than so long before its end. -/
structure Within (others : β → β → Prop) (middle begun scene : Scene β σ ρ) (timeout : Nat) :
    Prop where
  first : ReflTransGen (Warranted others) begun middle
  later : ReflTransGen (Warranted others) middle scene
  near : scene.now < middle.now + timeout

/-- Whether nothing was sent for so long up to a scene of a session that was begun, whichever
way it has gone. -/
structure Quiet (others : β → β → Prop) (scene begun : Scene β σ ρ) (timeout : Nat) : Prop where
  elapsed : begun.now + timeout ≤ scene.now
  unsent : ∀ middle : Scene β σ ρ, middle.Within others begun scene timeout →
    middle.sent = scene.sent

/-- A session that began with an activity is idle exactly when nothing was sent for as long as
its settings say. -/
theorem isIdle_iff_quiet {timeout : Nat} (active : begun.lastActivity = begun.now)
    (limit : scene.session.settings.idleTimeout = some timeout)
    (runs : ReflTransGen (Warranted others) begun scene) :
    scene.session.isIdle scene.now = true ↔ scene.Quiet others begun timeout := by
  have idle_iff : scene.session.isIdle scene.now = true ↔
      scene.lastActivity + timeout ≤ scene.now := by
    simp [Session.isIdle, Session.idleDeadline?, limit, lastActivity]
  rw [idle_iff]
  have last := lastActivity_eq_or_sent runs
  constructor
  · intro late
    refine ⟨?_, fun middle within => ?_⟩
    · have began : begun.now ≤ scene.lastActivity := by
        rcases last with none | ⟨middle, first, -, here, -⟩
        · rw [none, active]
        · rw [← here]
          exact now_le_of_reaches first
      omega
    · have near := within.near
      rcases sent_eq_or_le_lastActivity within.later with same | before
      · exact same
      · omega
  · intro quiet
    rcases last with none | ⟨middle, first, later, here, unlike⟩
    · rw [none, active]
      exact quiet.elapsed
    · rw [← here]
      exact Nat.not_lt.mp fun near => unlike (quiet.unsent middle ⟨first, later, near⟩)

/-! ## Sessions that were started -/

omit [OffsetStore ρ] in
/-- A session that was started watches its consumers, and this is its first activity, or it has
ended because it was asked to stop. -/
theorem watching_or_done_of_start {settings : Settings} {born now : Nat} {cancelled : Bool}
    {topics : Session.Topics} {client : β} {store : ρ}
    (started : start settings born cancelled topics now client store = (.ok (), begun)) :
    begun.session.settings = settings ∧
      (begun.session.supervisor = .watching ∧ begun.lastActivity = begun.now ∨
        begun.session.supervisor = .done { reason := .cancelled }) := by
  obtain ⟨session, after, rfl, starts⟩ := exists_starts started
  cases starts with
  | cancelled claims told =>
      rcases Session.claim_eq_ok_iff.mp claims with ⟨-, -, rfl⟩
      exact ⟨rfl, .inr rfl⟩
  | launched claims untold plans =>
      rcases Session.claim_eq_ok_iff.mp claims with ⟨-, -, rfl⟩
      exact ⟨rfl, .inl ⟨rfl, rfl⟩⟩

/-- A session that has ended stays so. -/
theorem done_of_reaches {summary : Summary} (done : begun.session.supervisor = .done summary)
    (runs : ReflTransGen (Warranted others) begun scene) :
    scene.session.supervisor = .done summary := by
  induction runs with
  | refl => exact done
  | tail _ warranted ih => exact (warranted.step.still_of_resting (.inl ⟨_, ih⟩)).1.trans ih

end Scene

/-- A supervisor some of whose consumers go on, who has nobody to take note of and is not asked
to stop, tells its consumers to stop exactly when the session is idle. -/
theorem Session.supervise?_eq_drain_iff {β σ : Type} [Client β σ] {session : Session σ}
    {client : β} {now : Nat} (watching : session.supervisor = .watching)
    (going : session.crew.isOver = false) (noted : session.crew.unnoted = [])
    (uncancelled : session.cancelled = false) :
    session.supervise? client now = some (session.drain .idleTimeout now, client) ↔
      session.isIdle now = true := by
  have unjoined := Session.join?_eq_none_iff.mpr noted
  cases idle : session.isIdle now <;>
    simp [supervise?, watching, watch?, Crew.isSettled, going, unjoined, uncancelled, idle]

namespace Scene

variable {ρ : Type} [OffsetStore ρ] {others : LogBroker → LogBroker → Prop}
  {begun last : Scene LogBroker Cursor ρ}

/-- A supervisor reports that a session was idle only if it found that nothing was sent for as
long as the settings say, and it does find so whenever nothing was sent. Consumers need not have
come to the ends of their logs then: at any time of the timeout, one that has no step may rest
after an error, or it may have its next event in its hands while the channel is full. -/
theorem idle_timeout_iff_unsent {settings : Settings} {born now timeout : Nat} {cancelled : Bool}
    {topics : Session.Topics} {client : LogBroker} {store : ρ}
    (started : start settings born cancelled topics now client store = (.ok (), begun))
    (limit : settings.idleTimeout = some timeout)
    (runs : ReflTransGen (Warranted others) begun last) :
    (∀ summary, last.session.summary? = some summary → summary.reason = .idleTimeout →
      ∃ decision : Scene LogBroker Cursor ρ, ReflTransGen (Warranted others) begun decision ∧
        ReflTransGen (Warranted others) decision last ∧
        decision.session.supervisor = .watching ∧ decision.Quiet others begun timeout ∧
        ∀ middle : Scene LogBroker Cursor ρ, middle.Within others begun decision timeout →
          ∀ (index : Nat) (consumer : Consumer Cursor),
            middle.session.crew.consumers[index]? = some consumer → consumer.ending? = none →
              middle.workAt? index = none →
                consumer.Lacks (middle.session.crew.around middle.client middle.store middle.now)) ∧
    (last.session.supervisor = .watching → last.session.crew.isOver = false →
      last.session.crew.unnoted = [] → last.session.cancelled = false →
        (last.session.supervise? last.client last.now =
            some (last.session.drain .idleTimeout last.now, last.client) ↔
          last.Quiet others begun timeout)) := by
  obtain ⟨settings_eq, begins⟩ := watching_or_done_of_start started
  have idle_iff {scene : Scene LogBroker Cursor ρ} (watching : scene.session.supervisor = .watching)
      (reached : ReflTransGen (Warranted others) begun scene) :
      scene.session.isIdle scene.now = true ↔ scene.Quiet others begun timeout := by
    rcases begins with ⟨-, active⟩ | done
    · apply isIdle_iff_quiet active _ reached
      have steps : ReflTransGen (Step others) begun scene :=
        reached.lift id fun _ _ warranted => warranted.step
      rw [settings_eq_of_reaches steps, settings_eq]
      exact limit
    · rw [done_of_reaches done reached] at watching
      cases watching
  refine ⟨fun summary found idle => ?_, fun watching going noted uncancelled => ?_⟩
  · have fresh : begun.session.supervisor.reason? ≠ some .idleTimeout := by
      rcases begins with ⟨watching, -⟩ | done
      · simp [watching, Supervisor.reason?]
      · simp [done, Supervisor.reason?]
    have ends := Session.reason?_of_summary? found
    rw [idle] at ends
    obtain ⟨decision, first, later, watching, decided⟩ := exists_idle_of_reason? fresh runs ends
    refine ⟨decision, first, later, watching, (idle_iff watching first).mp decided, ?_⟩
    intro middle _ index consumer found going still
    exact Consumer.lacks_of_step?_eq_none (step?_of_idle found still) going
  · exact (Session.supervise?_eq_drain_iff watching going noted uncancelled).trans
      (idle_iff watching runs)

section Stalled

open Store (MemoryStore)

/-- Two consumers behind a channel with room for one event, in a session that ends when it is
idle. -/
def stalledSettings : Settings := { capacity := 1, idleTimeout := some 10 }

/-- What it is asked for: all that comes of the two partitions of a topic. -/
def stalledTopics : Session.Topics := OrderedMap.empty.insert "orders" { common := ⟨.oldest, none⟩ }

/-- The scene in which it was started. -/
def stalledStart : Except RunError Unit × Scene LogBroker Cursor MemoryStore :=
  start stalledSettings 0 false stalledTopics 0 .orders {}

/-- The reader takes nothing. The first consumer fills the channel, and then both hold events. -/
def stallingSchedule : List Pick :=
  [.work 0, .work 0, .work 0, .work 0, .work 0, .work 1, .work 1, .work 1, .pass 5]

/-- The session ends because it is idle. -/
def givingUpSchedule : List Pick :=
  [.supervise, .work 0, .work 1, .supervise, .supervise, .supervise]

/-- While the reader takes nothing, no consumer has a step, and one holds an event. That is so
until the session is found to be idle. -/
theorem exists_stalled : ∃ (middle decision last : Scene LogBroker Cursor MemoryStore)
    (summary : Summary), middle.Within LogBroker.Change stalledStart.2 decision 10 ∧
      ReflTransGen (Warranted LogBroker.Change) decision last ∧
      last.session.summary? = some summary ∧ summary.reason = .idleTimeout ∧
      (∀ index, middle.workAt? index = none) ∧
      (∃ consumer ∈ middle.session.crew.consumers, consumer.ending? = none ∧
        (consumer.fate middle.client middle.store).events ≠ []) ∧
      decision.session.supervisor = .watching ∧ decision.session.crew.isOver = false ∧
      decision.session.crew.unnoted = [] ∧ decision.session.cancelled = false ∧
      decision.session.isIdle decision.now = true := by
  have facts : (stalledStart.2.play? stallingSchedule).any (fun middle =>
      (middle.workAt? 0).isNone ∧ (middle.workAt? 1).isNone ∧
        middle.session.crew.consumers.length = 2 ∧ middle.now = 5 ∧
        (middle.session.crew.consumers.any fun consumer => consumer.ending?.isNone &&
          !(consumer.fate middle.client middle.store).events.isEmpty) ∧
        (middle.play? [.pass 10]).any fun decision =>
          decision.now = 10 ∧ decision.session.supervisor = .watching ∧
            decision.session.crew.isOver = false ∧ decision.session.crew.unnoted = [] ∧
            decision.session.cancelled = false ∧ decision.session.isIdle decision.now = true ∧
            (decision.play? givingUpSchedule).any fun last =>
              last.session.summary?.any (·.reason = .idleTimeout)) = true := by
    decide +kernel
  rw [Option.any_eq_true] at facts
  rcases facts with ⟨middle, stalls, seen⟩
  simp only [decide_eq_true_eq] at seen
  obtain ⟨first, second, length_eq, half, holding, later⟩ := seen
  rw [Option.any_eq_true] at later
  rcases later with ⟨decision, passes, seen⟩
  simp only [decide_eq_true_eq] at seen
  obtain ⟨due, watching, going, noted, uncancelled, idle, later⟩ := seen
  rw [Option.any_eq_true] at later
  rcases later with ⟨last, ends, reported⟩
  rw [Option.any_eq_true] at reported
  rcases reported with ⟨summary, found, reason⟩
  rw [List.any_eq_true] at holding
  rcases holding with ⟨consumer, member, holds⟩
  have still (index : Nat) : middle.workAt? index = none := by
    match index with
    | 0 => exact Option.isNone_iff_eq_none.mp first
    | 1 => exact Option.isNone_iff_eq_none.mp second
    | index + 2 =>
        cases worked : middle.workAt? (index + 2) with
        | none => rfl
        | some after =>
            rcases workAt?_eq_some_iff.mp worked with ⟨consumer, outcome, works, -⟩
            have inside := (List.getElem?_eq_some_iff.mp works.found).choose
            omega
  have within : middle.Within LogBroker.Change stalledStart.2 decision 10 :=
    ⟨warranted_of_play? _ stalls, warranted_of_play? _ passes, by omega⟩
  exact ⟨middle, decision, last, summary, within, warranted_of_play? _ ends, found,
    of_decide_eq_true reason, still, ⟨consumer, member, by simpa using holds⟩, watching, going,
    noted, uncancelled, idle⟩

/-- Nothing is sent for the timeout of the session, as the supervisor finds, while a consumer
has something to deliver. -/
theorem idle_timeout_iff_unsent_stalled :
    ∃ (middle decision last : Scene LogBroker Cursor MemoryStore) (summary : Summary),
      ReflTransGen (Warranted LogBroker.Change) decision last ∧
        last.session.summary? = some summary ∧ summary.reason = .idleTimeout ∧
        decision.Quiet LogBroker.Change stalledStart.2 10 ∧
        middle.Within LogBroker.Change stalledStart.2 decision 10 ∧
        ∃ consumer ∈ middle.session.crew.consumers, consumer.ending? = none ∧
          (consumer.fate middle.client middle.store).events ≠ [] := by
  obtain ⟨middle, decision, last, summary, within, ends, found, reason, still, holding, watching,
    going, noted, uncancelled, idle⟩ := exists_stalled
  have started : stalledStart = (.ok (), stalledStart.2) := rfl
  have decides := (idle_timeout_iff_unsent started rfl (within.first.trans within.later)).2 watching
    going noted uncancelled
  have quiet := decides.mp
    ((Session.supervise?_eq_drain_iff watching going noted uncancelled).mpr idle)
  exact ⟨middle, decision, last, summary, ends, found, reason, quiet, within, holding⟩

/-- A session can report that it was idle though one of its consumers had an event to deliver
during the timeout and no consumer could do anything but wait for the reader. -/
theorem exists_idle_undelivered :
    ¬∀ (settings : Settings) (timeout : Nat) (topics : Session.Topics) (client : LogBroker)
      (store : MemoryStore) (begun middle decision last : Scene LogBroker Cursor MemoryStore)
      (summary : Summary),
      ReflTransGen LogBroker.Change {} client →
      start settings 0 false topics 0 client store = (.ok (), begun) →
      settings.idleTimeout = some timeout →
      middle.Within LogBroker.Change begun decision timeout →
      decision.session.supervise? decision.client decision.now =
        some (decision.session.drain .idleTimeout decision.now, decision.client) →
      ReflTransGen (Warranted LogBroker.Change) decision last →
      last.session.summary? = some summary → summary.reason = .idleTimeout →
      (∀ index, middle.workAt? index = none) →
      ∀ consumer ∈ middle.session.crew.consumers, consumer.ending? = none →
        (consumer.fate middle.client middle.store).events = [] := by
  intro always
  obtain ⟨middle, decision, last, summary, within, ends, found, reason, still,
    ⟨consumer, member, goes, holds⟩, watching, going, noted, uncancelled, idle⟩ := exists_stalled
  apply holds
  apply always stalledSettings 10 stalledTopics .orders {} stalledStart.2 middle decision last
    summary LogBroker.changes_orders rfl rfl within _ ends found reason still consumer member goes
  exact (Session.supervise?_eq_drain_iff watching going noted uncancelled).mpr idle

end Stalled

end Scene

end TopicReplay
