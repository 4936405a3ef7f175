import TopicReplay.Proofs.Session.FanIn

/-!
# Fair runs

A run without an end is fair when a consumer that has a step again and again takes one, the
reader takes what waits, and time goes on. In a fair run of a session that nobody stops, all
that is sent is received some time, and a partition that others leave alone comes to all of
the fate of its consumer, whatever happens to other partitions.
-/

namespace TopicReplay

open Broker (Client Cursor LogBroker)
open Relation (ReflTransGen)
open Store (OffsetStore LawfulStore Storable)

namespace Consumer

variable {β σ ρ : Type} [Client β σ] [OffsetStore ρ] {around : Surroundings β ρ}
  {consumer : Consumer σ} {outcome : Outcome β σ}

/-- A delivery takes room in the channel. -/
theorem Move.length_events_le (move : Move around consumer outcome)
    (fits : around.channel.buffer.length ≤ around.channel.capacity) :
    around.channel.buffer.length + outcome.emission.events.length ≤ around.channel.capacity := by
  cases move with
  | delivered untold phase heard room => exact of_decide_eq_true room
  | stopped untold phase heard room => exact of_decide_eq_true room
  | _ => exact fits

end Consumer

namespace Scene

variable {β σ ρ : Type} [Client β σ] [OffsetStore ρ] {others : β → β → Prop}
  {scene after : Scene β σ ρ}

/-! ## What a step never takes back -/

/-- Histories only grow, and time does not go back. -/
structure Grows (scene after : Scene β σ ρ) : Prop where
  now : scene.now ≤ after.now
  sent : scene.sent <+: after.sent
  received : scene.received <+: after.received
  capacity : after.session.crew.channel.capacity = scene.session.crew.channel.capacity

omit [Client β σ] [OffsetStore ρ] in
theorem Grows.refl (scene : Scene β σ ρ) : scene.Grows scene :=
  ⟨Nat.le_refl _, List.prefix_rfl, List.prefix_rfl, rfl⟩

omit [Client β σ] [OffsetStore ρ] in
theorem Grows.trans {later : Scene β σ ρ} (first : scene.Grows after)
    (second : after.Grows later) : scene.Grows later :=
  ⟨Nat.le_trans first.now second.now, first.sent.trans second.sent,
    first.received.trans second.received, second.capacity.trans first.capacity⟩

theorem Step.grows (step : Step others scene after) : scene.Grows after := by
  cases step with
  | turn turn =>
      cases turn with
      | work worked =>
          rcases workAt?_eq_some_iff.mp worked with ⟨consumer, outcome, -, rfl⟩
          exact ⟨Nat.le_refl _, List.prefix_append _ _, List.prefix_rfl, by simp⟩
      | supervise supervised =>
          exact ⟨Nat.le_refl _, List.prefix_rfl, List.prefix_rfl, by rw [supervised.kept.channel]⟩
      | pass later => exact ⟨later, List.prefix_rfl, List.prefix_rfl, rfl⟩
      | cancel => exact ⟨Nat.le_refl _, List.prefix_rfl, List.prefix_rfl, rfl⟩
      | change changed => exact ⟨Nat.le_refl _, List.prefix_rfl, List.prefix_rfl, rfl⟩
  | receive receives =>
      rcases receive?_eq_some_iff.mp receives with ⟨event, rest, -, rfl⟩
      exact ⟨Nat.le_refl _, List.prefix_rfl, List.prefix_append _ _, rfl⟩
  | hangUp => exact ⟨Nat.le_refl _, List.prefix_rfl, List.prefix_rfl, rfl⟩
  | commit stamp member => exact ⟨by simp, by simp, by simp, by simp⟩

/-- Whether the channel holds no more than it has room for. -/
def Bounded (scene : Scene β σ ρ) : Prop :=
  scene.session.crew.channel.buffer.length ≤ scene.session.crew.channel.capacity

omit [Client β σ] [OffsetStore ρ] in
theorem Fresh.bounded {settings : Settings} (fresh : scene.Fresh settings) : scene.Bounded := by
  rw [Bounded, fresh.channel]
  exact Nat.zero_le _

theorem Bounded.step (bounded : scene.Bounded) (step : Step others scene after) :
    after.Bounded := by
  unfold Bounded at bounded ⊢
  cases step with
  | turn turn =>
      cases turn with
      | work worked =>
          rcases workAt?_eq_some_iff.mp worked with ⟨consumer, outcome, works, rfl⟩
          have fits := works.moves.length_events_le bounded
          simp only [Crew.around] at fits
          simpa using fits
      | supervise supervised => rwa [supervised.kept.channel]
      | pass later => exact bounded
      | cancel => exact bounded
      | change changed => exact bounded
  | receive receives =>
      rcases receive?_eq_some_iff.mp receives with ⟨event, rest, buffer_eq, rfl⟩
      rw [buffer_eq] at bounded
      exact Nat.le_of_succ_le bounded
  | hangUp => exact Nat.zero_le _
  | commit stamp member => simpa using bounded

/-! ## Runs without an end -/

/-- A run without an end, in which steps may be waited for, of a session that nobody stops. -/
structure Fair (others : β → β → Prop) (run : Nat → Scene β σ ρ) : Prop where
  steps : ∀ n, run (n + 1) = run n ∨ Step others (run n) (run (n + 1))
  /-- A consumer that has a step again and again takes one. -/
  works : ∀ index n, (∀ m ≥ n, ∃ l ≥ m, ((run l).workAt? index).isSome = true) →
    ∃ m ≥ n, (run m).workAt? index = some (run (m + 1))
  /-- The reader takes what waits. -/
  reads : ∀ n, ∃ m ≥ n, (run m).session.crew.channel.buffer = [] ∨
    (run m).receive? = some (run (m + 1))
  passes : ∀ now, ∃ n, now ≤ (run n).now
  untold : ∀ n, (run n).session.crew.stop = false
  heard : ∀ n, (run n).session.crew.channel.receiving = true

/-- A step does not take back the signal to stop, nor does it bring a reader back. -/
theorem Step.unspoilt (step : Step others scene after) (untold : after.session.crew.stop = false)
    (heard : after.session.crew.channel.receiving = true) :
    scene.session.crew.stop = false ∧ scene.session.crew.channel.receiving = true := by
  rcases step.work_or_kept with ⟨index, consumer, outcome, -, rfl⟩ | kept
  · rw [stop_work] at untold
    rw [receiving_work] at heard
    exact ⟨untold, heard⟩
  · exact ⟨kept.untold untold, kept.receiving heard⟩

namespace Fair

variable {run : Nat → Scene β σ ρ} {n m : Nat}

theorem reaches (fair : Fair others run) (le : n ≤ m) :
    ReflTransGen (Step others) (run n) (run m) := by
  induction le with
  | refl => exact .refl
  | step _ ih =>
      rename_i m _
      rcases fair.steps m with waited | stepped
      · rwa [waited]
      · exact ih.tail stepped

theorem grows (fair : Fair others run) (le : n ≤ m) : (run n).Grows (run m) := by
  have reaches := fair.reaches le
  generalize run m = last at reaches
  induction reaches with
  | refl => exact .refl _
  | tail _ step ih => exact ih.trans step.grows

theorem bounded (fair : Fair others run) (first : (run 0).Bounded) (n : Nat) :
    (run n).Bounded := by
  have reaches := fair.reaches (Nat.zero_le n)
  generalize run n = last at reaches
  induction reaches with
  | refl => exact first
  | tail _ step ih => exact ih.step step

/-- Again and again there is room in the channel. -/
theorem exists_room (fair : Fair others run) (first : (run 0).Bounded)
    (capacity : 0 < (run 0).session.crew.channel.capacity) (n : Nat) :
    ∃ m ≥ n, (run m).session.crew.channel.hasRoom = true := by
  rcases fair.reads n with ⟨m, le, empty | receives⟩
  · refine ⟨m, le, ?_⟩
    rw [Channel.hasRoom, empty, (fair.grows (Nat.zero_le m)).capacity]
    exact decide_eq_true capacity
  · refine ⟨m + 1, Nat.le_succ_of_le le, ?_⟩
    have bounded := fair.bounded first m
    rcases receive?_eq_some_iff.mp receives with ⟨event, rest, buffer_eq, after_eq⟩
    rw [Bounded, buffer_eq] at bounded
    rw [after_eq]
    exact decide_eq_true bounded

/-- All that is sent is received some time. -/
theorem exists_received (fair : Fair others run) (conserved : (run 0).Conserved) (n : Nat) :
    ∃ m ≥ n, (run n).sent <+: (run m).received := by
  have conserved (m : Nat) : (run m).Conserved := conserved.run (fair.reaches (Nat.zero_le m))
  have far (k : Nat) (le : k ≤ (run n).sent.length) :
      ∃ m ≥ n, k ≤ (run m).received.length := by
    induction k with
    | zero => exact ⟨n, Nat.le_refl n, Nat.zero_le _⟩
    | succ k ih =>
        obtain ⟨m, later, length_le⟩ := ih (Nat.le_of_succ_le le)
        rcases fair.reads m with ⟨l, later', empty | receives⟩
        · refine ⟨l, Nat.le_trans later later', ?_⟩
          have sent_eq := (conserved l).waiting (fair.heard l)
          rw [empty, List.append_nil] at sent_eq
          rw [← sent_eq]
          exact Nat.le_trans le (fair.grows (Nat.le_trans later later')).sent.length_le
        · refine ⟨l + 1, Nat.le_succ_of_le (Nat.le_trans later later'), ?_⟩
          rcases receive?_eq_some_iff.mp receives with ⟨event, rest, -, after_eq⟩
          have grown := (fair.grows later').received.length_le
          rw [after_eq, List.length_append, List.length_singleton]
          omega
  obtain ⟨m, later, length_le⟩ := far _ (Nat.le_refl _)
  exact ⟨m, later,
    List.prefix_of_prefix_length_le (fair.grows later).sent (conserved m).heard length_le⟩

/-- One more step at the beginning leaves a run fair. -/
theorem cons (fair : Fair others run) (step : Step others scene (run 0)) :
    Fair others fun | 0 => scene | n + 1 => run n where
  steps n :=
    match n with
    | 0 => .inr step
    | n + 1 => fair.steps n
  works index n again := by
    obtain ⟨m, le, worked⟩ := fair.works index n fun m le => by
      obtain ⟨l, later, can⟩ := again (m + 1) (Nat.le_succ_of_le le)
      obtain ⟨l, rfl⟩ : ∃ k, l = k + 1 := ⟨l - 1, by omega⟩
      exact ⟨l, Nat.le_of_succ_le_succ later, can⟩
    exact ⟨m + 1, Nat.le_succ_of_le le, worked⟩
  reads n := by
    obtain ⟨m, le, reads⟩ := fair.reads n
    exact ⟨m + 1, Nat.le_succ_of_le le, reads⟩
  passes now := by
    obtain ⟨n, le⟩ := fair.passes now
    exact ⟨n + 1, le⟩
  untold n :=
    match n with
    | 0 => (step.unspoilt (fair.untold 0) (fair.heard 0)).1
    | n + 1 => fair.untold n
  heard n :=
    match n with
    | 0 => (step.unspoilt (fair.untold 0) (fair.heard 0)).2
    | n + 1 => fair.heard n

end Fair

/-- What has come to its end goes on fairly while time passes. -/
theorem fair_of_dry (others : β → β → Prop) (dry : scene.session.crew.isDry = true)
    (untold : scene.session.crew.stop = false)
    (heard : scene.session.crew.channel.receiving = true) :
    Fair others fun n => { scene with now := scene.now + n } where
  steps n := .inr (.turn (.pass (Nat.le_succ _)))
  works index n again := by
    obtain ⟨m, -, can⟩ := again n (Nat.le_refl n)
    rcases Option.isSome_iff_exists.mp can with ⟨after, worked⟩
    rcases workAt?_eq_some_iff.mp worked with ⟨consumer, outcome, works, -⟩
    have going := works.isOver_eq_false
    rw [(Bool.and_eq_true_iff.mp dry).1] at going
    cases going
  reads n := ⟨n, Nat.le_refl n, .inl (List.isEmpty_iff.mp (Bool.and_eq_true_iff.mp dry).2)⟩
  passes now := ⟨now, Nat.le_add_left now scene.now⟩
  untold _ := untold
  heard _ := heard

/-- A schedule that has come to its end is the beginning of a fair run, in which nothing more is
committed. -/
theorem exists_fair (runs : ReflTransGen (Step others) scene after)
    (dry : after.session.crew.isDry = true) (untold : after.session.crew.stop = false)
    (heard : after.session.crew.channel.receiving = true) :
    ∃ run : Nat → Scene β σ ρ, run 0 = scene ∧ Fair others run ∧
      ∀ n, (run n).committed <+: after.committed := by
  induction runs using ReflTransGen.head_induction_on with
  | refl => exact ⟨_, rfl, fair_of_dry others dry untold heard, fun _ => List.prefix_rfl⟩
  | head step _ ih =>
      rcases ih with ⟨run, begins, fair, committed⟩
      subst begins
      refine ⟨_, rfl, fair.cons step, fun n => ?_⟩
      cases n with
      | zero => exact step.committed_prefix.trans (committed 0)
      | succ n => exact committed n

end Scene

/-! ## Partitions that are left alone -/

namespace Scene

variable {ρ : Type} [OffsetStore ρ] [LawfulStore ρ] {others : LogBroker → LogBroker → Prop}
  {scene after : Scene LogBroker Cursor ρ} {place : TopicPartition} {fate : Fate} {index : Nat}
  {consumer : Consumer Cursor}

/-- A consumer that is not given up makes a step, or it stays as it is and so does its
partition. -/
theorem Step.works_or_stays (step : Step others scene after) (steady : scene.Steady)
    (fits : ∀ event ∈ after.committed, Storable event.place.partition (event.offset + 1))
    (anchored : scene.Anchored consumer.place)
    (untouched : ∀ {broker after}, others broker after → broker.Same consumer.place after)
    (found : scene.session.crew.consumers[index]? = some consumer)
    (untold : after.session.crew.stop = false) :
    (∃ outcome, scene.Works index consumer outcome ∧
      scene.work index consumer outcome = after) ∨
    after.session.crew.consumers[index]? = some consumer ∧
      scene.client.Same consumer.place after.client := by
  rcases step.work_or_undisturbed steady.fitting fits untouched with
    ⟨i, other, outcome, works, rfl⟩ | undisturbed
  · by_cases here : i = index
    · subst here
      rcases Option.some.inj (works.found.symm.trans found) with rfl
      exact .inl ⟨outcome, works, rfl⟩
    · refine .inr ⟨?_, works.moves.same fun cursor held located => here ?_⟩
      · rw [consumers_work, List.getElem?_set_ne here]
        exact found
      · have same := (anchored other (List.mem_of_getElem? works.found) cursor held).mp located
        have inside := (List.getElem?_eq_some_iff.mp works.found).choose
        apply (List.getElem?_inj (by simpa [places] using inside) steady.ordered.nodup).mp
        simp [places, works.found, found, same]
  · refine .inr ⟨?_, undisturbed.same⟩
    rcases undisturbed.kept.consumers with same | ⟨-, reason, deadline, draining⟩
    · rwa [same]
    · rw [undisturbed.kept.stop (steady.signalled reason deadline draining)] at untold
      cases untold

section Rest

variable {run : Nat → Scene LogBroker Cursor ρ} {n m : Nat} (fair : Fair others run)
  (fits : ∀ l, ∀ event ∈ (run l).committed, Storable event.place.partition (event.offset + 1))
  (keeps : ∀ {broker after}, others broker after → broker.Sound → after.Sound)
  (untouched : ∀ {broker after}, others broker after → broker.Same place after)
  (steady : (run 0).Steady) (faithful : (run 0).Faithful place fate)

include fair fits keeps untouched steady faithful

/-- The consumer of a partition that is left alone takes some of its effort at each step. -/
theorem Fair.effort_le (le : n ≤ m) (found : (run n).session.crew.consumers[index]? = some consumer)
    (here : consumer.place = place) :
    ∃ later, (run m).session.crew.consumers[index]? = some later ∧ later.place = place ∧
      later.effort (run m).client ≤ consumer.effort (run n).client := by
  induction le with
  | refl => exact ⟨consumer, found, here, Nat.le_refl _⟩
  | @step m le ih =>
      rcases ih with ⟨later, atM, place_eq, effort_le⟩
      rcases fair.steps m with waited | stepped
      · rw [waited]
        exact ⟨later, atM, place_eq, effort_le⟩
      · have runs := fair.reaches (Nat.zero_le m)
        have steadyM := steady.run keeps runs (fits m)
        have anchored := (faithful.run steady keeps untouched runs (fits m)).anchored
        subst place_eq
        rcases stepped.works_or_stays steadyM (fits (m + 1)) anchored untouched atM
          (fair.untold (m + 1)) with
          ⟨outcome, works, work_eq⟩ | ⟨stays, same⟩
        · have less := works.moves.effort_lt steadyM.ordered.sound
          rw [← work_eq]
          exact ⟨outcome.consumer, works.getElem?_work, works.moves.place_eq,
            Nat.le_trans (Nat.le_of_lt less) effort_le⟩
        · refine ⟨later, stays, rfl, ?_⟩
          rw [Consumer.effort_of_same same (anchored.consumer (List.mem_of_getElem? atM))]
          exact effort_le

/-- A consumer without a step from some time on stays as it is. -/
theorem Fair.stays (found : (run n).session.crew.consumers[index]? = some consumer)
    (here : consumer.place = place) (idle : ∀ l ≥ n, (run l).workAt? index = none) (le : n ≤ m) :
    (run m).session.crew.consumers[index]? = some consumer := by
  induction le with
  | refl => exact found
  | @step m le ih =>
      rcases fair.steps m with waited | stepped
      · rwa [waited]
      · have runs := fair.reaches (Nat.zero_le m)
        have anchored := (faithful.run steady keeps untouched runs (fits m)).anchored
        subst here
        rcases stepped.works_or_stays (steady.run keeps runs (fits m)) (fits (m + 1)) anchored
          untouched ih (fair.untold (m + 1)) with ⟨outcome, works, work_eq⟩ | ⟨stays, -⟩
        · have worked := workAt?_eq_some_iff.mpr ⟨consumer, outcome, works, work_eq⟩
          rw [idle m le] at worked
          cases worked
        · exact stays

/-- The consumer comes to a state in which it has no step any more. -/
theorem Fair.exists_rest (found : (run n).session.crew.consumers[index]? = some consumer)
    (here : consumer.place = place) :
    ∃ m ≥ n, ∃ last : Consumer Cursor, last.place = place ∧
      ∀ l ≥ m, (run l).session.crew.consumers[index]? = some last ∧
        (run l).workAt? index = none := by
  induction effort : consumer.effort (run n).client using Nat.strongRecOn
    generalizing n consumer with
  | ind bound ih =>
      subst effort
      by_cases again : ∀ m ≥ n, ∃ l ≥ m, ((run l).workAt? index).isSome = true
      · obtain ⟨m, le, worked⟩ := fair.works index n again
        rcases workAt?_eq_some_iff.mp worked with ⟨worker, outcome, works, work_eq⟩
        obtain ⟨later, atM, place_eq, effort_le⟩ :=
          fair.effort_le fits keeps untouched steady faithful le found here
        rcases Option.some.inj (works.found.symm.trans atM) with rfl
        have steadyM := steady.run keeps (fair.reaches (Nat.zero_le m)) (fits m)
        have less := works.moves.effort_lt steadyM.ordered.sound
        have next : (run (m + 1)).session.crew.consumers[index]? = some outcome.consumer := by
          rw [← work_eq]
          exact works.getElem?_work
        have below : outcome.consumer.effort (run (m + 1)).client <
            consumer.effort (run n).client := by
          rw [← work_eq]
          exact Nat.lt_of_lt_of_le less effort_le
        obtain ⟨l, later, rest⟩ := ih _ below next (works.moves.place_eq.trans place_eq) rfl
        exact ⟨l, by omega, rest⟩
      · simp only [not_forall, not_exists, not_and] at again
        rcases again with ⟨m, le, stuck⟩
        obtain ⟨last, atM, place_eq, -⟩ :=
          fair.effort_le fits keeps untouched steady faithful le found here
        have idle (l : Nat) (later : l ≥ m) : (run l).workAt? index = none :=
          Option.not_isSome_iff_eq_none.mp (stuck l later)
        exact ⟨m, le, last, place_eq, fun l later =>
          ⟨fair.stays fits keeps untouched steady faithful atM place_eq idle later, idle l later⟩⟩

/-- A consumer without a step has delivered all of its fate. -/
theorem Fair.eq_of_rest (bounded : (run 0).Bounded)
    (capacity : 0 < (run 0).session.crew.channel.capacity) (here : consumer.place = place)
    (rest : ∀ m ≥ n, (run m).session.crew.consumers[index]? = some consumer ∧
      (run m).workAt? index = none) :
    ∃ m ≥ n, eventsOf place (run m).sent = fate.events ∧ consumer.ending? = fate.ending := by
  have stuck (m : Nat) (le : n ≤ m) : consumer.step? ((run m).session.crew.around (run m).client
      (run m).store (run m).now) = none :=
    step?_of_idle (rest m le).1 (rest m le).2
  have on_way (m : Nat) : (run m).Faithful place fate :=
    faithful.run steady keeps untouched (fair.reaches (Nat.zero_le m)) (fits m)
  have member (m : Nat) (le : n ≤ m) : consumer ∈ (run m).session.crew.consumers :=
    List.mem_of_getElem? (rest m le).1
  obtain ⟨m, le, room⟩ := fair.exists_room bounded capacity n
  rcases Consumer.of_step?_eq_none room (stuck m le) with
    ⟨ending, phase⟩ | waits | ⟨bounds, cursor, wake, phase, -⟩
  · have ended : consumer.ending? = some ending := by rw [Consumer.ending?, phase]
    obtain ⟨events_eq, ending_eq⟩ :=
      ((on_way m).whole consumer (member m le) here ending ended).2 (fair.untold m) (fair.heard m)
    exact ⟨m, le, events_eq, ended.trans ending_eq.symm⟩
  · have going := Consumer.ending?_of_waits waits
    have before := (on_way m).going consumer (member m le) here going
    have none : consumer.fate (run m).client (run m).store = {} := Consumer.fate_of_waits waits
    rw [none] at before
    refine ⟨m, le, ?_, ?_⟩
    · rw [← before]
      simp
    · rw [← before, going]
      rfl
  · obtain ⟨late, due⟩ := fair.passes wake
    obtain ⟨l, later, room⟩ := fair.exists_room bounded capacity (max m late)
    have le' : n ≤ l := by omega
    rcases Consumer.of_step?_eq_none room (stuck l le') with
      ⟨ending, other⟩ | ⟨_, _, _, _, other, -⟩ | ⟨_, _, _, other, early⟩
    · rw [phase] at other
      cases other
    · rw [phase] at other
      cases other
    · rw [phase] at other
      cases other
      have passed := (fair.grows (show late ≤ l by omega)).now
      exact absurd (Nat.le_trans due passed) (Nat.not_le.mpr early)

/-- In a fair run all of the fate of a partition that is left alone is received, and its
consumer ends as its fate has it. -/
theorem Fair.comes_to_fate (bounded : (run 0).Bounded)
    (capacity : 0 < (run 0).session.crew.channel.capacity) (planned : place ∈ (run 0).places) :
    ∃ n, ∀ m ≥ n, eventsOf place (run m).received = fate.events ∧
      ∃ consumer ∈ (run m).session.crew.consumers,
        consumer.place = place ∧ consumer.ending? = fate.ending := by
  rcases List.mem_map.mp planned with ⟨first, member, first_place⟩
  obtain ⟨index, found⟩ := List.getElem?_of_mem member
  obtain ⟨n, -, last, here, rest⟩ :=
    fair.exists_rest fits keeps untouched steady faithful found first_place
  obtain ⟨m, after_n, sent_eq, ending_eq⟩ :=
    fair.eq_of_rest fits keeps untouched steady faithful bounded capacity here rest
  obtain ⟨l, after_m, heard⟩ := fair.exists_received steady.conserved m
  refine ⟨l, fun k later => ⟨?_, last, List.mem_of_getElem? (rest k (by omega)).1, here, ending_eq⟩⟩
  have runs := fair.reaches (Nat.zero_le k)
  have on_way := faithful.run steady keeps untouched runs (fits k)
  have whole : eventsOf place (run m).sent <+: eventsOf place (run k).received :=
    (heard.trans (fair.grows later).received).filter _
  have part : eventsOf place (run k).received <+: fate.events :=
    ((steady.run keeps runs (fits k)).conserved.heard.filter _).trans
      (on_way.sent_prefix (List.mem_of_getElem? (rest k (by omega)).1) here)
  rw [sent_eq] at whole
  exact part.eq_of_length (Nat.le_antisymm part.length_le whole.length_le)

end Rest

end Scene

end TopicReplay
