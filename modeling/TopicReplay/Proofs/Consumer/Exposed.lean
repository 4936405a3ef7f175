import Mathlib.Logic.Relation
import TopicReplay.Proofs.Consumer.Ahead
import TopicReplay.Proofs.Consumer.Gapless
import TopicReplay.Store.Memory

/-!
# Exposed consumers

An exposed consumer is one to which anything can happen: its surroundings may differ from
step to step, others may change its broker meanwhile, and it may be given up. What it has
resolved, the log that it reads and the events that it has delivered are kept beside it.

An offset at which such a consumer stops is passed by its last event at most, and only
where all messages up to the offset were dropped before the consumer could read them.
-/

namespace TopicReplay

open Broker (Client Cursor LogBroker OrderedClient)
open Relation (ReflTransGen)
open Store (MemoryStore OffsetStore)

namespace Consumer

variable {β σ ρ : Type} [Client β σ] [OffsetStore ρ]

/-- The bounds that a consumer resolves with its next step. -/
def resolves? (around : Surroundings β ρ) (consumer : Consumer σ) : Option Bounds :=
  match consumer.phase, around.stop with
  | .resolving, false =>
      match resolve around.client around.store consumer.environment consumer.place
        consumer.span with
      | .value bounds => some bounds
      | .error _ | .breakdown => none
  | _, _ => none

theorem resolves?_eq_some_iff {around : Surroundings β ρ} {consumer : Consumer σ}
    {bounds : Bounds} :
    consumer.resolves? around = some bounds ↔
      consumer.phase = .resolving ∧ around.stop = false ∧
        resolve around.client around.store consumer.environment consumer.place consumer.span =
          .value bounds := by
  unfold resolves?
  cases consumer.phase with
  | resolving =>
      cases around.stop with
      | true => simp
      | false =>
          cases resolve around.client around.store consumer.environment consumer.place
            consumer.span <;> simp
  | _ => simp

/-- Bounds are resolved by one who has not resolved them. -/
theorem resolves?_eq_none {around : Surroundings β ρ} {consumer : Consumer σ}
    (resolved : consumer.phase ≠ .resolving) : consumer.resolves? around = none := by
  cases resolves : consumer.resolves? around with
  | none => rfl
  | some bounds => exact absurd (resolves?_eq_some_iff.mp resolves).1 resolved

end Consumer

open Consumer (Move Outcome Surroundings)

/-- A consumer to which anything can happen. -/
structure Exposed where
  broker : LogBroker
  consumer : Consumer Cursor
  /-- The bounds that it has resolved. -/
  bounds : Option Bounds := none
  /-- The log that its stream is over. -/
  log : Option Nat := none
  /-- The events that it has delivered, in order. -/
  delivered : List Event := []

namespace Exposed

variable {ρ : Type} [OffsetStore ρ]

/-- The exposed consumer after a step of its own. -/
def work (exposed : Exposed) (around : Surroundings LogBroker ρ)
    (outcome : Outcome LogBroker Cursor) : Exposed where
  broker := outcome.client
  consumer := outcome.consumer
  bounds := exposed.bounds.or (exposed.consumer.resolves? around)
  log := (outcome.consumer.phase.stream?.map (·.log)).or exposed.log
  delivered := exposed.delivered ++ outcome.emission.events

variable (ρ) in
/-- What can happen to an exposed consumer. The store, the channel, the signal to stop and
the clock may be any at each of its steps. -/
inductive Step (others : LogBroker → LogBroker → Prop) (exposed : Exposed) : Exposed → Prop where
  | work {around : Surroundings LogBroker ρ} {outcome : Outcome LogBroker Cursor}
      (here : around.client = exposed.broker)
      (steps : exposed.consumer.step? around = some outcome) :
      Step others exposed (exposed.work around outcome)
  | change {broker : LogBroker} (changed : others exposed.broker broker) :
      Step others exposed { exposed with broker }
  /-- It is given up. -/
  | abandon (going : exposed.consumer.ending? = none) :
      Step others exposed {
        exposed with
        broker := (exposed.consumer.finish exposed.broker .aborted).client
        consumer := (exposed.consumer.finish exposed.broker .aborted).consumer }

variable {others : LogBroker → LogBroker → Prop} {exposed after : Exposed} {stop : Int}

/-! ## Offsets at which a consumer stops -/

/-- Whether an offset that lies behind another one was read there because everything before
it was dropped. -/
def Reached (exposed : Exposed) (stop offset : Int) : Prop :=
  stop < offset → ∃ n, exposed.log = some n ∧ offset ≤ (exposed.broker.log n).low

/-- Whether all that was delivered lies before an offset, but for an event that reaches it
and with which the consumer has stopped. -/
structure Obeys (stop : Int) (exposed : Exposed) : Prop where
  before : ∀ event ∈ exposed.delivered.dropLast, event.offset < stop
  last : ∀ event, exposed.delivered.getLast? = some event → stop ≤ event.offset →
    exposed.consumer.ending? = some (.finished .stopped) ∧ exposed.Reached stop event.offset

theorem obeys_of_before (before : ∀ event ∈ exposed.delivered, event.offset < stop) :
    exposed.Obeys stop where
  before event member := before event ((List.dropLast_sublist _).subset member)
  last event found reached :=
    absurd (before event (List.mem_of_getLast? found)) (Int.not_lt.mpr reached)

/-- Whether a consumer is on its way to an offset at which it stops: it has delivered nothing
that reaches the offset, and it takes what does for its last event. -/
def Bound (stop : Int) (exposed : Exposed) : Prop :=
  match exposed.consumer.phase with
  | .resolving => exposed.bounds = none ∧ exposed.delivered = []
  | .attaching bounds =>
      exposed.bounds = some bounds ∧ exposed.delivered = [] ∧
        (bounds.stop = some (.offset stop) → bounds.start ≤ stop)
  | .reading bounds cursor | .resting bounds cursor _ =>
      exposed.bounds = some bounds ∧
        (bounds.stop = some (.offset stop) → bounds.start ≤ stop ∧
          (∀ event ∈ exposed.delivered, event.offset < stop) ∧ cursor.next ≤ stop)
  | .sending bounds cursor event isLast =>
      exposed.bounds = some bounds ∧
        (bounds.stop = some (.offset stop) → bounds.start ≤ stop ∧
          (∀ event ∈ exposed.delivered, event.offset < stop) ∧
          cursor.next = event.offset + 1 ∧ (isLast = true ↔ stop ≤ event.offset) ∧
          exposed.Reached stop event.offset)
  | .ended _ => ∀ start, exposed.bounds = some ⟨start, some (.offset stop)⟩ → exposed.Obeys stop

/-- A consumer that goes on has delivered nothing that reaches the offset. -/
theorem Bound.before (bound : exposed.Bound stop) (going : exposed.consumer.ending? = none)
    {start : Int} (bounds : exposed.bounds = some ⟨start, some (.offset stop)⟩) :
    ∀ event ∈ exposed.delivered, event.offset < stop := by
  unfold Bound at bound
  cases phase : exposed.consumer.phase with
  | resolving =>
      rw [phase, bounds] at bound
      cases bound.1
  | attaching resolved =>
      rw [phase] at bound
      rw [bound.2.1]
      exact List.forall_mem_nil _
  | ended ending => exact absurd phase (Consumer.ending?_eq_none_iff.mp going ending)
  | _ =>
      rw [phase, bounds] at bound
      cases bound.1
      exact (bound.2 rfl).2.1

/-- What is bound to an offset obeys it. -/
theorem Bound.obeys (bound : exposed.Bound stop) {start : Int}
    (bounds : exposed.bounds = some ⟨start, some (.offset stop)⟩) : exposed.Obeys stop := by
  cases ended : exposed.consumer.ending? with
  | none => exact obeys_of_before (bound.before ended bounds)
  | some ending =>
      have phase := Consumer.phase_of_ending? ended
      rw [Bound, phase] at bound
      exact bound start bounds

theorem bound_of_ended {ending : Ending} (phase : exposed.consumer.phase = .ended ending)
    (before : ∀ start, exposed.bounds = some ⟨start, some (.offset stop)⟩ →
      ∀ event ∈ exposed.delivered, event.offset < stop) : exposed.Bound stop := by
  rw [Bound, phase]
  exact fun start bounds => obeys_of_before (before start bounds)

/-! ## Steps -/

/-- Whether the broker is sound, and the log that is kept is there and that of the stream. -/
structure Inside (exposed : Exposed) : Prop where
  sound : exposed.broker.Sound
  held : ∀ cursor, exposed.consumer.phase.stream? = some cursor → exposed.log = some cursor.log
  there : ∀ n, exposed.log = some n → n < exposed.broker.logs.length

/-- What was dropped does not come back. -/
theorem Reached.follows {offset : Int} (reached : exposed.Reached stop offset)
    (inside : exposed.Inside) (follows : exposed.broker.Follows after.broker)
    (same : after.log = exposed.log) : after.Reached stop offset := by
  intro passed
  rcases reached passed with ⟨n, found, le⟩
  exact ⟨n, same.trans found, Int.le_trans le (follows.low_le n (inside.there n found))⟩

section Work

variable {around : Surroundings LogBroker ρ} {outcome : Outcome LogBroker Cursor}

@[simp]
theorem bounds_work {bounds : Bounds} (resolved : exposed.bounds = some bounds) :
    (exposed.work around outcome).bounds = some bounds := by
  simp [work, resolved]

theorem log_work_of_stream {cursor : Cursor}
    (held : outcome.consumer.phase.stream? = some cursor) :
    (exposed.work around outcome).log = some cursor.log := by
  simp [work, held]

theorem log_work_of_none (gone : outcome.consumer.phase.stream? = none) :
    (exposed.work around outcome).log = exposed.log := by
  simp [work, gone]

@[simp]
theorem consumer_work : (exposed.work around outcome).consumer = outcome.consumer := rfl

@[simp]
theorem delivered_work :
    (exposed.work around outcome).delivered = exposed.delivered ++ outcome.emission.events := rfl

@[simp]
theorem broker_work : (exposed.work around outcome).broker = outcome.client := rfl

/-- A step keeps the log that a consumer reads. -/
theorem Inside.work (inside : exposed.Inside) (here : around.client = exposed.broker)
    (move : Move around exposed.consumer outcome) : (exposed.work around outcome).Inside := by
  have sound : around.client.Sound := here ▸ inside.sound
  have length_le := move.follows.length_le
  have older {n : Nat} (found : exposed.log = some n) : n < outcome.client.logs.length := by
    apply Nat.lt_of_lt_of_le _ length_le
    rw [here]
    exact inside.there n found
  refine ⟨move.sound sound, fun cursor => log_work_of_stream, fun n found => ?_⟩
  cases held : outcome.consumer.phase.stream? with
  | none => exact older ((log_work_of_none held).symm.trans found)
  | some cursor =>
      rw [log_work_of_stream held, Option.some.injEq] at found
      rcases move.log_eq held with ⟨old, before, log_eq⟩ | located
      · exact older ((inside.held old before).trans (congrArg some (log_eq.trans found)))
      · rw [← found]
        exact Nat.lt_of_lt_of_le (sound.lt_of_locate located) length_le

/-- A step leaves what was delivered before the offset. -/
theorem Bound.before_work (bound : exposed.Bound stop)
    (going : exposed.consumer.ending? = none) {start : Int}
    (bounds : (exposed.work around outcome).bounds = some ⟨start, some (.offset stop)⟩) :
    ∀ event ∈ exposed.delivered, event.offset < stop := by
  by_cases phase : exposed.consumer.phase = .resolving
  · rw [Bound, phase] at bound
    rw [bound.2]
    exact List.forall_mem_nil _
  · rw [Exposed.work, Consumer.resolves?_eq_none phase] at bounds
    exact bound.before going (by simpa using bounds)

/-- A step keeps a consumer bound to an offset at which it stops. -/
theorem Bound.work (bound : exposed.Bound stop) (inside : exposed.Inside)
    (here : around.client = exposed.broker) (move : Move around exposed.consumer outcome) :
    (exposed.work around outcome).Bound stop := by
  have before (start : Int)
      (bounds : (exposed.work around outcome).bounds = some ⟨start, some (.offset stop)⟩) :
      ∀ event ∈ exposed.delivered, event.offset < stop :=
    bound.before_work move.going bounds
  have sound : around.client.Sound := here ▸ inside.sound
  have follows := move.follows
  rw [Bound] at bound
  cases move with
  | resolved untold phase resolves open_ =>
      rw [phase] at bound
      have bounds := Consumer.resolves?_eq_some_iff.mpr ⟨phase, untold, resolves⟩
      simp only [Bound, Exposed.work, Consumer.phase_enter, bound.1, bound.2, bounds]
      refine ⟨rfl, rfl, fun stops => ?_⟩
      simpa [Bounds.areCrossed, stops] using open_
  | attached untold phase attaches =>
      rw [phase] at bound
      rcases Broker.LogBroker.attach_eq_ok_iff.mp attaches with ⟨n, -, rfl, -⟩
      simpa [Bound, bound.1, bound.2.1] using bound.2.2
  | rested untold phase polled passing =>
      rw [phase] at bound
      obtain ⟨rfl, -⟩ := Consumer.log_of_fault polled
      simpa [Bound, bound.1] using bound.2
  | skipped untold phase polled early =>
      rw [phase] at bound
      obtain ⟨rfl, -⟩ := Consumer.log_of_message sound polled
      simp only [Bound, consumer_work, Consumer.phase_enter]
      refine ⟨bounds_work bound.1, fun stops => ?_⟩
      obtain ⟨start_le, before, -⟩ := bound.2 stops
      exact ⟨start_le, by simpa using before, by omega⟩
  | took untold phase polled onward =>
      rw [phase] at bound
      have offset_eq := Consumer.offset_eq_of_poll sound polled
      obtain ⟨rfl, -, -, log_eq⟩ := Consumer.log_of_message sound polled
      simp only [Bound, consumer_work, Consumer.phase_enter]
      refine ⟨bounds_work bound.1, fun stops => ?_⟩
      obtain ⟨start_le, before, next_le⟩ := bound.2 stops
      refine ⟨start_le, by simpa using before, rfl, ?_, fun passed => ?_⟩
      · simp [Bounds.endAt, stops, StopBound.reachedBy, Message.toEvent]
      · -- the stream was not beyond the offset, so that the end of what was dropped is
        refine ⟨_, log_work_of_stream rfl, ?_⟩
        simp only [broker_work, log_eq, Message.toEvent] at passed ⊢
        omega
  | woke untold phase due =>
      rw [phase] at bound
      simpa [Bound, bound.1] using bound.2
  | @delivered bounds cursor event untold phase heard room =>
      rw [phase] at bound
      simp only [Bound, consumer_work, Consumer.phase_enter]
      refine ⟨bounds_work bound.1, fun stops => ?_⟩
      obtain ⟨start_le, before, next_eq, unreached, -⟩ := bound.2 stops
      have below : event.offset < stop := by simpa using unreached
      refine ⟨start_le, fun other member => ?_, by omega⟩
      rcases List.mem_append.mp member with old | new
      · exact before other old
      · rw [List.mem_singleton.mp new]
        exact below
  | stopped untold phase heard room =>
      rw [phase] at bound
      simp only [Bound, consumer_work, Consumer.phase_enter, Consumer.consumer_finish]
      intro start stops
      rw [bounds_work bound.1] at stops
      cases stops
      obtain ⟨-, before, -, -, reached⟩ := bound.2 rfl
      constructor
      · simpa using before
      · intro last found atLast
        rw [delivered_work, Consumer.events_delivery, List.getLast?_concat] at found
        cases found
        refine ⟨rfl, reached.follows inside ?_ (log_work_of_none rfl)⟩
        rw [← here]
        exact follows
  | _ => exact bound_of_ended rfl (by simpa [Exposed.work] using before)

end Work

/-- Nothing that can happen to a consumer takes anything back from its broker. -/
theorem Step.follows (step : Step ρ others exposed after)
    (onward : ∀ {broker after}, others broker after → broker.Follows after) :
    exposed.broker.Follows after.broker := by
  cases step with
  | work here steps =>
      rw [← here]
      exact (Consumer.move_of_step? steps).follows
  | change changed => exact onward changed
  | abandon going =>
      exact Consumer.of_finish .aborted
        (fun cursor follows => follows.trans (Broker.LogBroker.follows_release _ cursor)) (.refl _)

theorem Inside.step (inside : exposed.Inside)
    (keeps : ∀ {broker after}, others broker after → broker.Sound → after.Sound)
    (onward : ∀ {broker after}, others broker after → broker.Follows after)
    (step : Step ρ others exposed after) : after.Inside := by
  have length_le := (step.follows onward).length_le
  cases step with
  | work here steps => exact inside.work here (Consumer.move_of_step? steps)
  | change changed =>
      exact ⟨keeps changed inside.sound, inside.held,
        fun n found => Nat.lt_of_lt_of_le (inside.there n found) length_le⟩
  | abandon going =>
      constructor
      · exact Consumer.of_finish (P := LogBroker.Sound) .aborted
          (fun cursor => OrderedClient.sound_release (β := LogBroker) cursor) inside.sound
      · exact nofun
      · exact fun n found => Nat.lt_of_lt_of_le (inside.there n found) length_le

/-- What others do to a broker keeps a consumer bound to an offset at which it stops. -/
theorem Bound.change (bound : exposed.Bound stop) (inside : exposed.Inside) {broker : LogBroker}
    (follows : exposed.broker.Follows broker) : Bound stop { exposed with broker } := by
  unfold Bound at bound ⊢
  simp only
  cases phase : exposed.consumer.phase with
  | sending bounds cursor event isLast =>
      rw [phase] at bound
      refine ⟨bound.1, fun stops => ?_⟩
      obtain ⟨start_le, before, next_eq, last, reached⟩ := bound.2 stops
      exact ⟨start_le, before, next_eq, last, reached.follows inside follows rfl⟩
  | ended ending =>
      rw [phase] at bound
      intro start bounds
      have obeys := bound start bounds
      constructor
      · exact obeys.before
      · intro last found atLast
        obtain ⟨stopped, reached⟩ := obeys.last last found atLast
        exact ⟨stopped, reached.follows inside follows rfl⟩
  | _ =>
      rw [phase] at bound
      exact bound

theorem Bound.step (bound : exposed.Bound stop) (inside : exposed.Inside)
    (onward : ∀ {broker after}, others broker after → broker.Follows after)
    (step : Step ρ others exposed after) : after.Bound stop := by
  cases step with
  | work here steps => exact bound.work inside here (Consumer.move_of_step? steps)
  | change changed => exact bound.change inside (onward changed)
  | abandon going => exact bound_of_ended rfl fun start => bound.before going

/-- Whatever happens to a consumer that stops at an offset: what it delivers lies before the
offset, but for one last event with which it stops. That event has the offset, or else all
messages up to it had been dropped when it was read. -/
theorem stop_passed_only_over_dropped {broker : LogBroker} {consumer : Consumer Cursor}
    {start : Int} (sound : broker.Sound) (phase : consumer.phase = .resolving)
    (keeps : ∀ {broker after}, others broker after → broker.Sound → after.Sound)
    (onward : ∀ {broker after}, others broker after → broker.Follows after)
    (runs : ReflTransGen (Step ρ others) { broker, consumer } after)
    (bounds : after.bounds = some ⟨start, some (.offset stop)⟩) :
    (∀ event ∈ after.delivered.dropLast, event.offset < stop) ∧
    ∀ event, after.delivered.getLast? = some event → stop ≤ event.offset →
      after.consumer.ending? = some (.finished .stopped) ∧
        (event.offset = stop ∨
          ∃ n, after.log = some n ∧ event.offset ≤ (after.broker.log n).low) := by
  have holds : after.Inside ∧ after.Bound stop := by
    clear bounds
    induction runs with
    | refl =>
        refine ⟨⟨sound, fun cursor held => ?_, nofun⟩, ?_⟩
        · rw [phase] at held
          cases held
        · rw [Bound, phase]
          exact ⟨rfl, rfl⟩
    | tail _ step ih => exact ⟨ih.1.step keeps onward step, ih.2.step ih.1 onward step⟩
  have obeys := holds.2.obeys bounds
  refine ⟨obeys.before, fun event found atLast => ?_⟩
  obtain ⟨stopped, reached⟩ := obeys.last event found atLast
  refine ⟨stopped, ?_⟩
  rcases Int.lt_or_eq_of_le atLast with passed | same
  · exact .inr (reached passed)
  · exact .inl same.symm

section Passed

open Broker.LogBroker (Change change_eq_ok_iff changes_orders orders sound_orders)

/-- The consumer after so many steps in which it is heard and nothing else happens. -/
def work? : Nat → Exposed → Option Exposed
  | 0, exposed => some exposed
  | n + 1, exposed =>
      let around : Surroundings LogBroker MemoryStore :=
        { client := exposed.broker, store := {}, channel := { capacity := 1 }, stop := false,
          now := 0 }
      (exposed.consumer.step? around).bind fun outcome => work? n (exposed.work around outcome)

theorem reaches_of_work? {n : Nat} (works : work? n exposed = some after) :
    ReflTransGen (Step MemoryStore others) exposed after := by
  induction n generalizing exposed with
  | zero =>
      cases works
      exact .refl
  | succ n ih =>
      rcases Option.bind_eq_some_iff.mp works with ⟨outcome, steps, later⟩
      exact .head (.work rfl steps) (ih later)

/-- The small broker without the first message of its first partition. -/
def shortened : LogBroker := orders.modify 0 fun log => log.truncate 1

theorem change_shortened : orders.Change shortened := by
  have located : orders.locate ⟨"orders", 0⟩ = .ok 0 := by decide +kernel
  exact .truncate (change_eq_ok_iff.mpr ⟨0, located, rfl⟩)

/-- A consumer of the first message only. -/
def single : Exposed where
  broker := orders
  consumer := {
    environment := "default"
    place := ⟨"orders", 0⟩
    span := ⟨.offset 0, some (.offset 0)⟩ }

/-- The consumer of the first message, which is dropped after the stream was opened. -/
def late? : Option Exposed :=
  (work? 2 single).bind fun opened =>
    work? 2 { opened with broker := opened.broker.modify 0 fun log => log.truncate 1 }

theorem reaches_late {after : Exposed} (late : late? = some after) :
    ReflTransGen (Step MemoryStore Change) single after := by
  rcases Option.bind_eq_some_iff.mp late with ⟨opened, opens, later⟩
  have located : (work? 2 single).map (fun opened => opened.broker.locate ⟨"orders", 0⟩) =
      some (.ok 0) := by
    decide +kernel
  rw [opens] at located
  have drops : opened.broker.Change (opened.broker.modify 0 fun log => log.truncate 1) :=
    .truncate (change_eq_ok_iff.mpr ⟨0, Option.some.inj located, rfl⟩)
  exact ((reaches_of_work? opens).tail (.change drops)).trans (reaches_of_work? later)

/-- The next message is delivered instead. -/
theorem stop_passed_only_over_dropped_late :
    ∃ after : Exposed, late? = some after ∧ after.delivered.map (·.offset) = [1] ∧
      after.consumer.ending? = some (.finished .stopped) ∧
      ∃ n, after.log = some n ∧ 1 ≤ (after.broker.log n).low := by
  have seen : late?.map (fun after => (after.bounds, after.delivered.map (·.offset))) =
      some (some ⟨0, some (.offset 0)⟩, [1]) := by
    decide +kernel
  rcases Option.map_eq_some_iff.mp seen with ⟨after, late, pair_eq⟩
  obtain ⟨bounds, offsets⟩ := Prod.mk.inj pair_eq
  rcases List.map_eq_singleton_iff.mp offsets with ⟨event, delivered, offset_eq⟩
  obtain ⟨stopped, same | dropped⟩ :=
    (stop_passed_only_over_dropped sound_orders rfl (fun change sound => change.sound sound)
      (fun change => change.follows) (reaches_late late) bounds).2 event
        (by rw [delivered]; rfl) (by omega)
  · omega
  · rw [offset_eq] at dropped
    exact ⟨after, late, offsets, stopped, dropped⟩

/-- A stop at an offset can be passed. -/
theorem exists_stop_passed :
    ¬∀ (broker : LogBroker) (environment : String) (place : TopicPartition)
      (first last : Checkpoint) (span : Span) (after : Exposed) (start stop : Int),
      ReflTransGen Change {} broker → Span.ofCheckpoints first (some last) = .ok span →
      ReflTransGen (Step MemoryStore Change)
        { broker, consumer := { environment, place, span } } after →
      after.bounds = some ⟨start, some (.offset stop)⟩ →
      ∀ event ∈ after.delivered, event.offset ≤ stop := by
  intro never
  have passed : ((work? 4 { single with broker := shortened }).map fun after =>
      (after.bounds, after.delivered.map (·.offset))) =
        some (some ⟨0, some (.offset 0)⟩, [1]) := by
    decide +kernel
  rcases Option.map_eq_some_iff.mp passed with ⟨after, works, seen⟩
  obtain ⟨bounds, offsets⟩ := Prod.mk.inj seen
  have le := never shortened "default" ⟨"orders", 0⟩ (.offset 0) (.offset 0) _ after 0 0
    (changes_orders.tail change_shortened) rfl (reaches_of_work? works) bounds
  rcases List.map_eq_singleton_iff.mp offsets with ⟨event, delivered, offset_eq⟩
  have := le event (by rw [delivered]; exact List.mem_cons_self)
  omega

end Passed

end Exposed

end TopicReplay
