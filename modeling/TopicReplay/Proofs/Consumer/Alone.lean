import Mathlib.Logic.Relation
import TopicReplay.Proofs.Consumer.Ahead
import TopicReplay.Proofs.Consumer.Fate

/-!
# Consumers that are alone

A consumer that is run alone, heard and not told to stop, delivers its fate: whatever the
clock says at each step, it comes to rest, and then it has delivered exactly the events of
its fate and has ended as its fate has it.
-/

namespace TopicReplay

open Broker (Client Cursor LogBroker)
open Consumer (storedOffset?)
open Relation (ReflTransGen)
open Store (OffsetStore)

variable {ρ : Type} [OffsetStore ρ]

namespace Consumer

/-- A consumer without a step has ended, waits for a message, or rests until later. -/
theorem of_step?_eq_none {around : Surroundings LogBroker ρ} {consumer : Consumer Cursor}
    (room : around.channel.hasRoom = true) (stuck : consumer.step? around = none) :
    (∃ ending, consumer.phase = .ended ending) ∨ consumer.Waits around.client ∨
      ∃ bounds cursor wake, consumer.phase = .resting bounds cursor wake ∧ around.now < wake := by
  rcases step?_eq_none_iff.mp stuck with ended | ⟨-, waits | rests | full⟩
  · exact .inl ended
  · exact .inr (.inl waits)
  · exact .inr (.inr rests)
  · rcases full with ⟨bounds, cursor, event, isLast, -, -, full⟩
    rw [room] at full
    cases full

end Consumer

/-- A consumer that is alone with a broker, and what it has delivered. -/
structure Alone where
  broker : LogBroker
  consumer : Consumer Cursor
  delivered : List Event := []

namespace Alone

/-- A step of a consumer that is heard and not told to stop, at any time. -/
inductive Step (store : ρ) (alone : Alone) : Alone → Prop where
  | step {channel : Channel} {now : Nat} {outcome : Consumer.Outcome LogBroker Cursor}
      (heard : channel.receiving = true) (room : channel.hasRoom = true)
      (steps : alone.consumer.step?
        { client := alone.broker, store, channel, stop := false, now } = some outcome) :
      Step store alone {
        broker := outcome.client
        consumer := outcome.consumer
        delivered := alone.delivered ++ outcome.emission.events }

/-- Whether a consumer has no step left at any time. -/
def Rests (store : ρ) (alone : Alone) : Prop := ∀ after, ¬Step store alone after

variable {store : ρ} {alone after : Alone}

/-- What a consumer has delivered and what is to come make up its fate. -/
theorem Step.fate_eq (step : Step store alone after) (sound : alone.broker.Sound) :
    (after.consumer.fate after.broker store).behind after.delivered =
      (alone.consumer.fate alone.broker store).behind alone.delivered := by
  cases step with
  | step heard room steps =>
      have fate_eq := (Consumer.move_of_step? steps).fate_eq sound (.inl ⟨rfl, heard⟩)
      simp only at fate_eq ⊢
      rw [fate_eq]
      simp [Fate.behind]

theorem Step.sound (step : Step store alone after) (sound : alone.broker.Sound) :
    after.broker.Sound := by
  cases step with
  | step heard room steps => exact (Consumer.move_of_step? steps).sound sound

theorem Step.effort_lt (step : Step store alone after) (sound : alone.broker.Sound) :
    after.consumer.effort after.broker < alone.consumer.effort alone.broker := by
  cases step with
  | step heard room steps => exact (Consumer.move_of_step? steps).effort_lt sound

/-- A run leaves the fate of a consumer as it was, counting what it has delivered. -/
theorem fate_of_reaches (runs : ReflTransGen (Step store) alone after)
    (sound : alone.broker.Sound) :
    after.broker.Sound ∧ (after.consumer.fate after.broker store).behind after.delivered =
      (alone.consumer.fate alone.broker store).behind alone.delivered := by
  induction runs with
  | refl => exact ⟨sound, rfl⟩
  | tail _ step ih => exact ⟨step.sound ih.1, (step.fate_eq ih.1).trans ih.2⟩

/-- A consumer rests when it has ended or waits for its stream. -/
theorem rests_iff : alone.Rests store ↔
    (∃ ending, alone.consumer.ending? = some ending) ∨ alone.consumer.Waits alone.broker := by
  constructor
  · intro rests
    have stuck (now : Nat) : alone.consumer.step?
        { client := alone.broker, store, channel := { capacity := 1 }, stop := false, now } =
          none := by
      cases steps : alone.consumer.step?
          { client := alone.broker, store, channel := { capacity := 1 }, stop := false, now } with
      | none => rfl
      | some outcome => exact absurd (.step rfl rfl steps) (rests _)
    rcases Consumer.of_step?_eq_none rfl (stuck 0) with
      ⟨ending, phase⟩ | waits | ⟨bounds, cursor, wake, phase, -⟩
    · exact .inl ⟨ending, by rw [Consumer.ending?, phase]⟩
    · exact .inr waits
    · -- whoever rests has a step when the time has come
      rcases Consumer.of_step?_eq_none rfl (stuck wake) with
        ⟨ending, other⟩ | ⟨_, _, _, _, other, -⟩ | ⟨_, _, later, other, early⟩
      · rw [phase] at other
        cases other
      · rw [phase] at other
        cases other
      · rw [phase] at other
        cases other
        exact absurd early (Nat.lt_irrefl _)
  · rintro (⟨ending, ended⟩ | waits) after step
    · cases step with
      | step heard room steps =>
          have going := (Consumer.move_of_step? steps).going
          rw [ended] at going
          cases going
    · cases step with
      | step heard room steps =>
          rw [Consumer.step?_eq_none_iff.mpr (.inr ⟨rfl, .inl waits⟩)] at steps
          cases steps

/-- A consumer at rest has delivered all of its fate. -/
theorem Rests.fate_eq (rests : alone.Rests store) :
    alone.consumer.fate alone.broker store = { ending := alone.consumer.ending? } := by
  rcases rests_iff.mp rests with ⟨ending, ended⟩ | waits
  · rw [Consumer.fate_of_ending? ended, ended]
  · rw [Consumer.fate_of_waits waits, Consumer.ending?_of_waits waits]

/-- Whether every run of a consumer comes to a state with a property. -/
inductive Comes (store : ρ) (P : Alone → Prop) : Alone → Prop where
  | here {alone : Alone} (holds : P alone) : Comes store P alone
  | step {alone : Alone} (goes : ∃ after, Step store alone after)
      (all : ∀ after, Step store alone after → Comes store P after) : Comes store P alone

theorem Comes.imp {P Q : Alone → Prop} (imp : ∀ last, P last → Q last)
    (comes : Comes store P alone) : Comes store Q alone := by
  induction comes with
  | here holds => exact .here (imp _ holds)
  | step goes _ ih => exact .step goes ih

/-- What every run comes to is what some run comes to. -/
theorem Comes.exists_reaches {P : Alone → Prop} (comes : Comes store P alone) :
    ∃ last, ReflTransGen (Step store) alone last ∧ P last := by
  induction comes with
  | here holds => exact ⟨_, .refl, holds⟩
  | step goes _ ih =>
      rcases goes with ⟨after, step⟩
      rcases ih after step with ⟨last, runs, holds⟩
      exact ⟨last, .head step runs, holds⟩

/-- Every run comes to rest, and has then delivered the fate that the consumer had. -/
theorem comes_fate (sound : alone.broker.Sound) :
    Comes store (fun last => last.Rests store ∧
      last.delivered = alone.delivered ++ (alone.consumer.fate alone.broker store).events ∧
      last.consumer.ending? = (alone.consumer.fate alone.broker store).ending) alone := by
  induction effort : alone.consumer.effort alone.broker using Nat.strongRecOn
    generalizing alone with
  | ind n ih =>
      by_cases rests : alone.Rests store
      · apply Comes.here
        rw [rests.fate_eq]
        exact ⟨rests, (List.append_nil _).symm, rfl⟩
      · apply Comes.step
        · simpa [Rests] using rests
        · intro after step
          have later := ih _ (effort ▸ step.effort_lt sound) (step.sound sound) rfl
          have fate_eq := step.fate_eq sound
          have events_eq := congrArg Fate.events fate_eq
          have ending_eq := congrArg Fate.ending fate_eq
          simp only [Fate.events_behind, Fate.ending_behind] at events_eq ending_eq
          rwa [events_eq, ending_eq] at later

/-- A consumer always comes to an end when its fate has that end. -/
theorem comes_ended_iff (alone : Alone) (sound : alone.broker.Sound) {ending : Ending} :
    Comes store (fun last =>
        last.delivered = alone.delivered ++ (alone.consumer.fate alone.broker store).events ∧
        last.consumer.ending? = some ending) alone ↔
      (alone.consumer.fate alone.broker store).ending = some ending := by
  constructor
  · intro comes
    rcases comes.exists_reaches with ⟨last, runs, -, ended⟩
    have ending_eq := congrArg Fate.ending (fate_of_reaches runs sound).2
    rw [Consumer.fate_of_ending? ended] at ending_eq
    exact ending_eq.symm
  · intro fated
    refine (comes_fate sound).imp fun last comes => ?_
    exact ⟨comes.2.1, comes.2.2.trans fated⟩

/-- A consumer can come to wait for its stream when its fate has no end. -/
theorem exists_waits_iff (alone : Alone) (sound : alone.broker.Sound) :
    (∃ last, ReflTransGen (Step store) alone last ∧ last.consumer.Waits last.broker) ↔
      (alone.consumer.fate alone.broker store).ending = none := by
  constructor
  · rintro ⟨last, runs, waits⟩
    have ending_eq := congrArg Fate.ending (fate_of_reaches runs sound).2
    rw [Consumer.fate_of_waits waits] at ending_eq
    exact ending_eq.symm
  · intro endless
    have comes : Comes store _ alone := comes_fate sound
    rcases comes.exists_reaches with ⟨last, runs, rests, -, ending_eq⟩
    rcases rests_iff.mp rests with ⟨ending, ended⟩ | waits
    · rw [ended, endless] at ending_eq
      cases ending_eq
    · exact ⟨last, runs, waits⟩

/-- A consumer comes to rest. -/
theorem exists_rests (alone : Alone) (store : ρ) (sound : alone.broker.Sound) :
    ∃ last, ReflTransGen (Step store) alone last ∧ last.Rests store := by
  have comes : Comes store _ alone := comes_fate sound
  rcases comes.exists_reaches with ⟨last, runs, rests, -⟩
  exact ⟨last, runs, rests⟩

end Alone

/-- What a consumer delivers when it is alone, and how it ends: what some run has brought
when it has come to rest. -/
def Consumer.Delivers (consumer : Consumer Cursor) (broker : LogBroker) (store : ρ)
    (fate : Fate) : Prop :=
  ∃ last, ReflTransGen (Alone.Step store) { broker, consumer } last ∧ last.Rests store ∧
    last.delivered = fate.events ∧ last.consumer.ending? = fate.ending

/-- A consumer that is alone delivers its fate and nothing else. -/
theorem Consumer.delivers_iff {consumer : Consumer Cursor} {broker : LogBroker} {store : ρ}
    {fate : Fate} (sound : broker.Sound) :
    consumer.Delivers broker store fate ↔ fate = consumer.fate broker store := by
  have settled {last : Alone} (runs : ReflTransGen (Alone.Step store) { broker, consumer } last)
      (rests : last.Rests store) :
      consumer.fate broker store =
        { events := last.delivered, ending := last.consumer.ending? } := by
    have fate_eq := (Alone.fate_of_reaches runs sound).2
    change _ = (consumer.fate broker store).behind [] at fate_eq
    rw [rests.fate_eq, Fate.behind_nil] at fate_eq
    rw [← fate_eq]
    simp [Fate.behind]
  constructor
  · rintro ⟨last, runs, rests, events_eq, ending_eq⟩
    rw [settled runs rests, events_eq, ending_eq]
  · rintro rfl
    obtain ⟨last, runs, rests⟩ := Alone.exists_rests { broker, consumer } store sound
    have fate_eq := settled runs rests
    exact ⟨last, runs, rests, by rw [fate_eq], by rw [fate_eq]⟩

/-- Whether a fate is all that a consumer can come to when it is alone, with any broker that
has the same partition and any store that has the same offset of it. -/
def Consumer.Destined (consumer : Consumer Cursor) (broker : LogBroker) (store : ρ)
    (fate : Fate) : Prop :=
  ∀ (alone : LogBroker) (stored : ρ), alone.Sound → broker.Alike consumer.place alone →
    storedOffset? stored consumer.environment consumer.place =
      storedOffset? store consumer.environment consumer.place →
    ∀ other, consumer.Delivers alone stored other ↔ other = fate

/-- A consumer that has not begun is destined to its fate. -/
theorem Consumer.destined_fate {consumer : Consumer Cursor} {broker : LogBroker} {store : ρ}
    (phase : consumer.phase = .resolving) :
    consumer.Destined broker store (consumer.fate broker store) := by
  intro alone stored sound alike offset other
  rw [Consumer.delivers_iff sound, Consumer.fate_of_alike alike offset phase]

end TopicReplay
