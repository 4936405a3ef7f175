import Mathlib.Logic.Relation
import TopicReplay.Broker.Log
import TopicReplay.Config.Basic
import TopicReplay.Proofs.Session.Begin
import TopicReplay.Session.Limits

/-!
# What a valid configuration asks of the runtime

A configuration that was found valid leaves the channel some room, but it may ask for more
room than a channel can have, and for an idle timeout that ends when the clock has no moment
left. The first breaks the start of a session down, as soon as there are consumers to send
out. The second breaks its supervisor down on its next turn as long as a consumer is left,
and whoever waits for the session gets an error. The time that consumers have to stop is too
short to matter, unless the clock is about to end by itself.

The main statements are `breaks_down_iff` and `valid_breaks_down`.
-/

namespace TopicReplay

namespace Moment

theorem ofParts?_eq_none_iff {seconds : Int} {nanos : Nat} (low : Text.minInt64 ≤ seconds)
    (small : nanos < nanosPerSecond) : ofParts? seconds nanos = none ↔ Text.maxInt64 < seconds := by
  unfold ofParts?
  split
  case isTrue fits =>
    constructor
    · intro none
      cases none
    · exact fun high => absurd high (Int.not_lt.mpr fits.1.2)
  case isFalse misfit =>
    exact ⟨fun _ => Int.not_le.mp fun most => misfit ⟨⟨low, most⟩, small⟩, fun _ => rfl⟩

/-- There is no later moment exactly if the clock has no such second. -/
theorem later?_eq_none_iff (moment : Moment) (millis : Nat) :
    moment.later? millis = none ↔
      Text.maxInt64 < moment.seconds + (millis / 1000 : Nat) +
        ((moment.nanos + millis % 1000 * 1000000) / nanosPerSecond : Nat) := by
  have low := moment.readable.1.1
  apply ofParts?_eq_none_iff
  · have seconds : (0 : Int) ≤ (millis / 1000 : Nat) := Int.natCast_nonneg _
    have carried : (0 : Int) ≤
        ((moment.nanos + millis % 1000 * 1000000) / nanosPerSecond : Nat) := Int.natCast_nonneg _
    omega
  · exact Nat.mod_lt _ (by decide)

/-- A span of whole seconds carries nothing over. -/
theorem later?_seconds_eq_none_iff (moment : Moment) (seconds : Nat) :
    moment.later? (seconds * 1000) = none ↔ Text.maxInt64 < moment.seconds + seconds := by
  have small := moment.readable.2
  have parts : seconds * 1000 / 1000 = seconds ∧ seconds * 1000 % 1000 = 0 := by omega
  have carried : moment.nanos / nanosPerSecond = 0 := Nat.div_eq_of_lt small
  rw [later?_eq_none_iff, parts.1, parts.2, Nat.zero_mul, Nat.add_zero, carried]
  simp

/-- The most seconds that a number of milliseconds of 64 bits can come to, with those that
are carried over. -/
def longest : Int := 18446744073709552

theorem isSome_later?_of_le {moment : Moment} (early : moment.seconds ≤ Text.maxInt64 - longest)
    {millis : Nat} (fits : millis ≤ Text.maxUInt64) : (moment.later? millis).isSome = true := by
  rw [Option.isSome_iff_ne_none, Ne, later?_eq_none_iff]
  have small := moment.readable.2
  unfold Text.maxInt64 longest at early
  unfold Text.maxUInt64 at fits
  unfold nanosPerSecond at small
  unfold Text.maxInt64 nanosPerSecond
  omega

end Moment

namespace Channel

theorem breakdown?_eq_some_iff {capacity : Nat} (room : 0 < capacity) {breakdown : Breakdown} :
    breakdown? capacity = some breakdown ↔ breakdown = .tooMuchRoom ∧ greatest < capacity := by
  rw [breakdown?, if_neg (Nat.ne_of_gt room)]
  split
  case isTrue great => simp [great, eq_comm]
  case isFalse small => simp [small]

end Channel

namespace Session

open Broker (Client)
open Relation (ReflTransGen)

variable {β σ : Type} [Client β σ]

/-! ## Starting -/

/-- Whether a start sends out consumers. -/
def Launches (session : Session σ) (client : β) (topics : Topics) (now : Nat) : Prop :=
  ∃ started after, session.start client topics now = (.ok (), started, after) ∧
    started.supervisor = .watching

/-- A start breaks down if it sends out consumers and the runtime has no channel for them. -/
theorem begin_eq_error_iff {session : Session σ} {client : β} {topics : Topics} {now : Nat}
    {breakdown : Breakdown} :
    session.begin client topics now = .error breakdown ↔
      session.Launches client topics now ∧
        Channel.breakdown? session.settings.capacity = some breakdown := by
  unfold Session.begin Launches
  rcases starts : session.start client topics now with ⟨result, started, after⟩
  cases result with
  | error e => simp
  | ok _ =>
      dsimp only
      split
      case h_1 supervisor_eq breakdown_eq => simp [supervisor_eq, breakdown_eq]
      case h_2 other =>
        simp only [reduceCtorEq, Prod.mk.injEq, true_and, false_iff, not_and]
        rintro ⟨_, _, ⟨rfl, rfl⟩, watching⟩ breakdown_eq
        exact other _ watching breakdown_eq

theorem start_of_begin {session started : Session σ} {client after : β} {topics : Topics}
    {now : Nat} {result : Except RunError Unit}
    (begun : session.begin client topics now = .ok (result, started, after)) :
    session.start client topics now = (result, started, after) := by
  unfold Session.begin at begun
  split at begun
  case h_1 starts =>
    split at begun
    case h_1 => cases begun
    case h_2 =>
      cases begun
      exact starts
  case h_2 => exact Except.ok.inj begun

/-! ## Supervising -/

/-- One step of a session on a clock. Its consumers, its reader and its caller change neither
what it was set to nor how far it has come nor what its supervisor does. -/
inductive Ticks (β : Type) [Client β σ] (clock : Nat → Moment) (session : Session σ) :
    Session σ → Prop where
  | supervise {client clientAfter : β} {now : Nat} {after : Session σ}
      (supervised : session.superviseOn? clock client now = some (after, clientAfter)) :
      Ticks β clock session after
  | aside {after : Session σ} (settings : after.settings = session.settings)
      (lifecycle : after.lifecycle = session.lifecycle)
      (supervisor : after.supervisor = session.supervisor) : Ticks β clock session after

/-- What is true of every session that was started with these settings. -/
structure Sane (settings : Settings) (session : Session σ) : Prop where
  settings_eq : session.settings = settings
  running : session.supervisor = .watching → session.lifecycle = .running

variable {settings : Settings} {session after : Session σ} {client clientAfter : β} {now : Nat}
  {clock : Nat → Moment}

theorem sane_of_start {topics : Topics} {result : Except RunError Unit}
    (fresh : session.supervisor = .absent)
    (started : session.start client topics now = (result, after, clientAfter)) :
    after.Sane session.settings := by
  cases starts_of_start started with
  | refused refuses => exact ⟨rfl, fun watching => by rw [fresh] at watching; cases watching⟩
  | cancelled claims told =>
      rcases claim_eq_ok_iff.mp claims with ⟨-, -, rfl⟩
      exact ⟨rfl, fun watching => by cases watching⟩
  | unplanned claims plans =>
      rcases claim_eq_ok_iff.mp claims with ⟨-, -, rfl⟩
      refine ⟨rfl, fun watching => ?_⟩
      simp only [fail, fresh] at watching
      cases watching
  | launched claims untold plans =>
      rcases claim_eq_ok_iff.mp claims with ⟨-, -, rfl⟩
      exact ⟨rfl, fun _ => rfl⟩

theorem lifecycle_of_join? (joined : session.join? = some after) :
    after.lifecycle = session.lifecycle := by
  rcases join?_eq_some_iff.mp joined with ⟨index, rest, -, rfl⟩
  exact lifecycle_noteAt session index rest

theorem Sane.supervised (sane : session.Sane settings)
    (supervised : session.Supervised client now after clientAfter) : after.Sane settings where
  settings_eq := supervised.kept.settings.trans sane.settings_eq
  running watching := by
    cases supervised with
    | noted undone joined =>
        rw [supervisor_of_join? joined] at watching
        rw [lifecycle_of_join? joined]
        exact sane.running watching
    | completed | told | drained | gaveUp => cases watching

/-- A supervisor that goes on by its rules is still there. -/
theorem isBroken_of_supervised (present : session.supervisor ≠ .absent)
    (supervised : session.Supervised client now after clientAfter) : after.isBroken = false := by
  have still : after.supervisor ≠ .absent := by
    cases supervised with
    | noted undone joined =>
        rw [supervisor_of_join? joined]
        exact present
    | completed | told | drained | gaveUp => exact fun absent => by cases absent
  rw [isBroken, decide_eq_false still, Bool.false_and]

theorem sane_breakDown (sane : session.Sane settings) (client : β) :
    (session.breakDown client).1.Sane settings :=
  ⟨sane.settings_eq, fun watching => by cases watching⟩

/-- A supervisor that tells consumers to stop has some left. -/
theorem isSettled_of_drained (watching : session.supervisor = .watching)
    (done : session.supervise? client now = some (after, clientAfter))
    (drained : after.lifecycle = .draining) : session.crew.isSettled = false := by
  cases settled : session.crew.isSettled with
  | false => rfl
  | true =>
      simp only [supervise?, watching, watch?, settled, if_true, Option.map_some,
        Option.some.injEq, Prod.mk.injEq] at done
      rcases done with ⟨rfl, -⟩
      cases drained

/-- Whether the supervisor of a session sets a deadline on its next turn that the clock does
not have, where the turn leads to `after`. -/
def Overruns (clock : Nat → Moment) (now : Nat) (session after : Session σ) : Prop :=
  session.supervisor = .watching ∧ session.crew.isSettled = false ∧
    (session.canIdle clock = false ∨
      after.lifecycle = .draining ∧ session.canDrain clock now = false)

theorem superviseOn?_of_missing (watching : session.supervisor = .watching)
    (unsettled : session.crew.isSettled = false) (missing : session.canIdle clock = false)
    (client : β) (now : Nat) :
    session.superviseOn? clock client now = some (session.breakDown client) := by
  simp only [superviseOn?, watching, unsettled, missing, Bool.not_false, Bool.and_self, if_true]

/-- A supervisor breaks down exactly on a turn on which it sets a deadline that the clock does
not have. -/
theorem Sane.isBroken_iff (sane : session.Sane settings)
    (turn : session.superviseOn? clock client now = some (after, clientAfter)) :
    after.Sane settings ∧ (after.isBroken = true ↔ session.Overruns clock now after) := by
  unfold superviseOn? at turn
  split at turn
  case h_1 watching =>
    split at turn
    case isTrue missing =>
      simp only [Bool.and_eq_true, Bool.not_eq_true'] at missing
      cases turn
      refine ⟨sane_breakDown sane client, fun _ => ⟨watching, missing.1, .inl missing.2⟩,
        fun _ => ?_⟩
      simp [isBroken, sane.running watching]
    case isFalse shown =>
      simp only [Bool.and_eq_true, Bool.not_eq_true', not_and, Bool.not_eq_false] at shown
      split at turn
      case h_2 => cases turn
      case h_1 told clientTold done =>
        have supervised := supervised_of_supervise? done
        have present : session.supervisor ≠ .absent := fun absent => by
          rw [watching] at absent
          cases absent
        have settings_eq : told.settings = session.settings := supervised.kept.settings
        split at turn
        case isTrue late =>
          simp only [Bool.and_eq_true, decide_eq_true_eq, Bool.not_eq_true'] at late
          rcases late with ⟨drained, missing⟩
          cases turn
          refine ⟨sane_breakDown (sane.supervised supervised) clientTold, fun _ => ?_, fun _ => ?_⟩
          · refine ⟨watching, isSettled_of_drained watching done drained, .inr ⟨drained, ?_⟩⟩
            rwa [canDrain, settings_eq] at missing
          · simp [isBroken, drained]
        case isFalse kept =>
          cases turn
          refine ⟨sane.supervised supervised, fun broken => ?_, ?_⟩
          · rw [isBroken_of_supervised present supervised] at broken
            cases broken
          · rintro ⟨-, unsettled, missing | ⟨drained, missing⟩⟩
            · rw [shown unsettled] at missing
              cases missing
            · rw [canDrain, ← settings_eq] at missing
              exact absurd (by simp [drained, canDrain, missing]) kept
  case h_2 other =>
    have supervised := supervised_of_supervise? turn
    refine ⟨sane.supervised supervised, fun broken => ?_, fun overruns => absurd overruns.1 other⟩
    by_cases present : session.supervisor = .absent
    · simp only [supervise?, present] at turn
      cases turn
    · rw [isBroken_of_supervised present supervised] at broken
      cases broken

theorem Sane.step (sane : session.Sane settings) (tick : session.Ticks β clock after) :
    after.Sane settings := by
  cases tick with
  | supervise turn => exact (sane.isBroken_iff turn).1
  | aside settings_eq lifecycle supervisor =>
      refine ⟨settings_eq.trans sane.settings_eq, fun watching => ?_⟩
      rw [lifecycle]
      exact sane.running (supervisor.symm.trans watching)

theorem Sane.run (sane : session.Sane settings)
    (runs : ReflTransGen (Ticks β clock) session after) : after.Sane settings := by
  induction runs with
  | refl => exact sane
  | tail _ tick ih => exact ih.step tick

/-- Those who wait for a session get an error exactly if it broke down. -/
theorem verdict?_eq_error_iff :
    (∃ e, session.verdict? = some (.error e)) ↔ session.isBroken = true := by
  unfold verdict? failure?
  split
  case h_1 summary ended =>
    constructor
    · rintro ⟨_, same⟩
      cases same
    · intro broken
      simp only [isBroken, Bool.and_eq_true, decide_eq_true_eq] at broken
      simp only [summary?, broken.1] at ended
      cases ended
  case h_2 =>
    split
    case isTrue broken => simp [broken]
    case isFalse whole => simp [whole]

end Session

namespace Config

open Broker (Client LogBroker)
open Relation (ReflTransGen)
open Session (Ticks)

/-- A valid configuration leaves the channel room. -/
theorem capacity_pos_of_validate {config : Config} (valid : config.validate = .ok ()) :
    0 < config.consumer.capacity := by
  rw [Nat.pos_iff_ne_zero]
  intro none
  have found : Problem.noCapacity ∈ config.problems := by
    simp [problems, none]
  unfold validate at valid
  cases problems_eq : config.problems with
  | nil =>
      rw [problems_eq] at found
      cases found
  | cons problem rest =>
      rw [problems_eq] at valid
      cases valid

theorem canIdle_eq_false_iff {config : Config} {σ : Type} {session : Session σ}
    {clock : Nat → Moment} (settings_eq : session.settings = config.sessionSettings) :
    session.canIdle clock = false ↔ ∃ seconds, config.consumer.idleTimeout = some seconds ∧
      Text.maxInt64 < (clock session.crew.stats.lastActivity).seconds + seconds := by
  rw [Session.canIdle, settings_eq, sessionSettings]
  cases config.consumer.idleTimeout with
  | none => simp
  | some seconds =>
      simp only [Option.map_some, Option.all_some, Option.isSome_eq_false_iff,
        Option.isNone_iff_eq_none, Moment.later?_seconds_eq_none_iff, Option.some.injEq,
        exists_eq_left']

theorem canDrain_eq_false_iff {config : Config} {σ : Type} {session : Session σ}
    {clock : Nat → Moment} {now : Nat} (settings_eq : session.settings = config.sessionSettings) :
    session.canDrain clock now = false ↔
      (clock now).later? config.consumer.drainTimeout = none := by
  rw [Session.canDrain, settings_eq, sessionSettings, Option.isSome_eq_false_iff,
    Option.isNone_iff_eq_none]

/-- What a runtime makes of a valid configuration, and of one in which options have set values
and that was found valid again. The start of a session breaks down exactly if it sends out
consumers and the channel is to hold more events than any can. The supervisor breaks down, so
that those who wait for the session get an error, exactly on a turn with consumers left on
which the idle timeout ends behind the last second of the clock, or on which the consumers are
told to stop and the time that they have does. The latter needs a clock that is about to end. -/
theorem breaks_down_iff {config : Config} (valid : config.validate = .ok ())
    (fits : config.consumer.drainTimeout ≤ Text.maxUInt64) {β σ : Type} [Client β σ] {born : Nat}
    {cancelled : Bool} {topics : Session.Topics} {client : β} {now : Nat} {session : Session σ}
    (fresh : session = { Session.new config.sessionSettings born with cancelled }) :
    (∀ breakdown, session.begin client topics now = .error breakdown ↔
      session.Launches client topics now ∧ breakdown = .tooMuchRoom ∧
        Channel.greatest < config.consumer.capacity) ∧
    (∀ {clock : Nat → Moment} {result : Except RunError Unit} {started last after : Session σ}
      {begun waiting left : β} {later : Nat},
      session.begin client topics now = .ok (result, started, begun) →
      ReflTransGen (Ticks β clock) started last →
      last.superviseOn? clock waiting later = some (after, left) →
      ((∃ e, after.verdict? = some (.error e)) ↔
        last.supervisor = .watching ∧ last.crew.isSettled = false ∧
          ((∃ seconds, config.consumer.idleTimeout = some seconds ∧
              Text.maxInt64 < (clock last.crew.stats.lastActivity).seconds + seconds) ∨
            after.lifecycle = .draining ∧
              (clock later).later? config.consumer.drainTimeout = none))) ∧
    ∀ moment : Moment, moment.seconds ≤ Text.maxInt64 - Moment.longest →
      (moment.later? config.consumer.drainTimeout).isSome = true := by
  have settings_eq : session.settings = config.sessionSettings := by rw [fresh]; rfl
  refine ⟨fun breakdown => ?_, ?_, fun moment early => Moment.isSome_later?_of_le early fits⟩
  · have capacity_eq : session.settings.capacity = config.consumer.capacity := by
      rw [settings_eq]
      rfl
    rw [Session.begin_eq_error_iff, capacity_eq,
      Channel.breakdown?_eq_some_iff (capacity_pos_of_validate valid)]
  · intro clock result started last after begun waiting left later begins runs turn
    have absent : session.supervisor = .absent := by rw [fresh]; rfl
    have sane := (Session.sane_of_start absent (Session.start_of_begin begins)).run runs
    rw [settings_eq] at sane
    rw [Session.verdict?_eq_error_iff, (sane.isBroken_iff turn).2, Session.Overruns,
      canIdle_eq_false_iff sane.settings_eq, canDrain_eq_false_iff sane.settings_eq]

section Greedy

/-- A configuration of the greatest channel and the longest idle timeout that can be said. -/
def greedy : Config :=
  { initial none with
    consumer := { idleTimeout := some 18446744073709551615, capacity := 18446744073709551615 } }

/-- A configuration of the longest idle timeout. -/
def patient : Config :=
  { initial none with consumer := { idleTimeout := some 18446744073709551615 } }

/-- A topic with one partition. -/
def greedyTopics : Session.Topics :=
  OrderedMap.empty.insert "orders" { common := ⟨.oldest, some .newest⟩ }

/-- A broker that has it. -/
def greedyBroker : LogBroker := ({} : LogBroker).addTopic "orders" 1

/-- A session under a configuration. -/
def greedySession (config : Config) : Session Broker.Cursor :=
  { Session.new config.sessionSettings 0 with cancelled := false }

theorem greedy_launches (config : Config) :
    (greedySession config).Launches greedyBroker greedyTopics 0 :=
  ⟨_, _, rfl, rfl⟩

/-- The one start breaks down, and of the other one the supervisor does on its first turn,
although its clock has just begun. -/
theorem breaks_down_iff_greedy :
    (greedySession greedy).begin greedyBroker greedyTopics 0 = .error .tooMuchRoom ∧
      ∃ result started begun after left,
        (greedySession patient).begin greedyBroker greedyTopics 0 = .ok (result, started, begun) ∧
          started.superviseOn? (fun _ => Moment.start) begun 0 = some (after, left) ∧
          ∃ e, after.verdict? = some (.error e) := by
  have greedy_valid : greedy.validate = .ok () := rfl
  have patient_valid : patient.validate = .ok () := rfl
  constructor
  · exact ((breaks_down_iff greedy_valid (by decide) rfl).1 _).mpr
      ⟨greedy_launches greedy, rfl, by decide⟩
  · have begins : ∃ result started begun,
        (greedySession patient).begin greedyBroker greedyTopics 0 = .ok (result, started, begun) ∧
          started.settings = patient.sessionSettings ∧ started.supervisor = .watching ∧
          started.crew.isSettled = false :=
      ⟨_, _, _, rfl, rfl, rfl, rfl⟩
    rcases begins with ⟨result, started, begun, begins, settings_eq, watching, unsettled⟩
    have late : ∃ seconds, patient.consumer.idleTimeout = some seconds ∧
        Text.maxInt64 < Moment.start.seconds + seconds := ⟨_, rfl, by decide⟩
    have missing : started.canIdle (fun _ => Moment.start) = false :=
      (canIdle_eq_false_iff settings_eq).mpr late
    have turn := Session.superviseOn?_of_missing watching unsettled missing begun 0
    refine ⟨result, started, begun, _, _, begins, turn, ?_⟩
    exact ((breaks_down_iff patient_valid (by decide) rfl).2.1 begins .refl turn).mpr
      ⟨watching, unsettled, .inl late⟩

/-- A valid configuration may break a session down. -/
theorem valid_breaks_down :
    ¬∀ config : Config, config.validate = .ok () →
      ∃ begun, (greedySession config).begin greedyBroker greedyTopics 0 = .ok begun := by
  intro starts
  rcases starts greedy rfl with ⟨begun, begins⟩
  have breaks : (greedySession greedy).begin greedyBroker greedyTopics 0 = .error .tooMuchRoom :=
    Session.begin_eq_error_iff.mpr ⟨greedy_launches greedy, rfl⟩
  rw [breaks] at begins
  cases begins

end Greedy

end Config

end TopicReplay
