import TopicReplay.Proofs.Session.Begin

/-!
# Signals and progress

Two facts about scenes that other invariants rest on. A session waits for its consumers
only after it has told them to stop. And progress fits the store as long as the offsets
behind what is committed do, so that committing one partition leaves the others as they are.
-/

namespace TopicReplay

open Broker (Client)
open Consumer (storedOffset?)
open Relation (ReflTransGen)
open Store (OffsetStore LawfulStore Storable)

namespace Scene

variable {β σ ρ : Type} [Client β σ] [OffsetStore ρ] {others : β → β → Prop}
  {scene after : Scene β σ ρ}

/-- Whether consumers that a session waits for were told to stop. -/
def Signalled (scene : Scene β σ ρ) : Prop :=
  ∀ reason deadline, scene.session.supervisor = .draining reason deadline →
    scene.session.crew.stop = true

omit [Client β σ] [OffsetStore ρ] in
theorem Fresh.signalled {settings : Settings} (fresh : scene.Fresh settings) : scene.Signalled :=
  fun reason deadline draining => absurd draining (fresh.undrained reason deadline)

theorem Signalled.step (signalled : scene.Signalled) (step : Step others scene after) :
    after.Signalled := by
  intro reason deadline draining
  cases step with
  | turn turn =>
      cases turn with
      | work worked =>
          rcases workAt?_eq_some_iff.mp worked with ⟨consumer, outcome, -, rfl⟩
          exact (Crew.stop_absorb _ _ _ _).trans (signalled reason deadline draining)
      | supervise supervised =>
          have kept := supervised.kept
          cases supervised with
          | noted undone joined =>
              simp only [Session.supervisor_of_join? joined] at draining
              exact kept.stop (signalled reason deadline draining)
          | completed watching settled => cases draining
          | told watching why => rfl
          | drained draining settled => cases draining
          | gaveUp draining late aborted => cases draining
      | pass later => exact signalled reason deadline draining
      | cancel => exact signalled reason deadline draining
      | change changed => exact signalled reason deadline draining
  | receive receives =>
      rcases receive?_eq_some_iff.mp receives with ⟨event, rest, -, rfl⟩
      exact signalled reason deadline draining
  | hangUp => exact signalled reason deadline draining
  | commit stamp member =>
      rw [session_commit] at draining ⊢
      exact signalled reason deadline draining

theorem Signalled.run (signalled : scene.Signalled)
    (runs : ReflTransGen (Step others) scene after) : after.Signalled := by
  induction runs with
  | refl => exact signalled
  | tail _ step ih => exact ih.step step

/-- Whether progress has the size that stores keep. -/
def Fitting (scene : Scene β σ ρ) : Prop :=
  ∀ place next, scene.session.next? place = some next → Storable place.partition next

omit [Client β σ] [OffsetStore ρ] in
theorem Fresh.fitting {settings : Settings} (fresh : scene.Fresh settings) : scene.Fitting := by
  intro place next found
  rw [fresh.progress] at found
  cases found

omit [Client β σ] [OffsetStore ρ] in
theorem Fitting.advance (fitting : scene.Fitting) {event : Event}
    (fits : Storable event.place.partition (event.offset + 1)) {next : Int}
    (found : (scene.session.advance event.place event.offset).next? event.place = some next) :
    Storable event.place.partition next := by
  rw [Session.next?_advance_self] at found
  cases current : scene.session.next? event.place with
  | none =>
      rw [current] at found
      cases found
      exact fits
  | some n =>
      rw [current] at found
      cases found
      have before := fitting _ _ current
      simp only [Storable, Option.map_some, Option.getD_some] at before fits ⊢
      omega

theorem Fitting.step (fitting : scene.Fitting) (step : Step others scene after)
    (fits : ∀ event ∈ after.committed, Storable event.place.partition (event.offset + 1)) :
    after.Fitting := by
  intro place next found
  cases step with
  | turn turn =>
      rw [Session.next?, turn.unread.progress] at found
      exact fitting place next found
  | receive receives =>
      rcases receive?_eq_some_iff.mp receives with ⟨event, rest, -, rfl⟩
      exact fitting place next found
  | hangUp => exact fitting place next found
  | @commit stamp event member =>
      rw [session_commit] at found
      by_cases here : place = event.place
      · subst here
        exact fitting.advance (fits event (by simp)) found
      · rw [Session.next?_advance_of_ne _ _ here] at found
        exact fitting place next found

theorem Fitting.run (fitting : scene.Fitting) (runs : ReflTransGen (Step others) scene after)
    (fits : ∀ event ∈ after.committed, Storable event.place.partition (event.offset + 1)) :
    after.Fitting := by
  induction runs with
  | refl => exact fitting
  | tail _ step ih =>
      exact (ih fun event member => fits event (step.committed_prefix.subset member)).step step fits

omit [Client β σ] in
/-- A commit leaves what is stored of other partitions as it is. -/
theorem Fitting.storedOffset?_commit [LawfulStore ρ] (fitting : scene.Fitting) {event : Event}
    (fits : Storable event.place.partition (event.offset + 1)) (stamp : Instant)
    {place : TopicPartition} (apart : place ≠ event.place) (environment : String) :
    storedOffset? (scene.commit stamp event).store environment place =
      storedOffset? scene.store environment place := by
  unfold commit
  split
  · rename_i commits
    rcases Prod.mk.inj commits with ⟨-, persists⟩
    have nextFits : Storable event.place.partition
        (((scene.session.advance event.place event.offset).next? event.place).getD
          (event.offset + 1)) := by
      cases found : (scene.session.advance event.place event.offset).next? event.place with
      | none => exact fits
      | some next => exact fitting.advance fits found
    exact Store.storedOffset?_commit_of_ne nextFits persists fun both => apart both.2
  · rfl

end Scene

end TopicReplay
