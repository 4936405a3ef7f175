import TopicReplay.Proofs.Broker.Sound
import TopicReplay.Proofs.Session.Lived

/-!
# Lifespans

What the life of a session comes to, whoever starts it and whatever happens: the stages go
forward and end at being closed, which is for good. A session is drained exactly when it was
running and ended for another reason than that its consumers had ended.
-/

namespace TopicReplay

open Broker (Client)
open Relation (ReflTransGen)
open Store (OffsetStore)

namespace Life

variable {β σ ρ : Type}

section Safety

variable {life : Life β σ ρ} {summary : Summary}

/-- How a session has come to its summary. -/
inductive Concluded (session : Session σ) (written : List Lifecycle) (summary : Summary) :
    Prop where
  | early (reason : summary.reason = .cancelled) (told : session.cancelled = true)
      (path : written = [.fetchingMetadata, .closed])
  | complete (reason : summary.reason = .completed) (untold : session.crew.stop = false)
      (path : written = [.fetchingMetadata, .running, .closed])
  | drained (excuses : session.Excuses summary.reason)
      (path : written = [.fetchingMetadata, .running, .draining, .closed])

theorem Stage.concluded (stage : life.Stage) (found : life.session.summary? = some summary) :
    Concluded life.session life.written summary := by
  have done : life.session.supervisor = .done summary := by
    unfold Session.summary? at found
    split at found
    · cases found
      assumption
    · cases found
  have unvacant {stage : Lifecycle} (vacant : life.session.Vacant stage) : False := by
    have absent := vacant.supervisor
    rw [done] at absent
    cases absent
  cases stage with
  | before unstarted vacant unwritten outside => exact (unvacant vacant).elim
  | @after started index call at_index stands alone =>
      cases call with
      | waiting topics => exact stands.elim
      | refused e => exact stands.elim
      | admitted topics => exact (unvacant stands.1).elim
      | planning todo planned => exact (unvacant stands.1).elim
      | failed e => exact (unvacant stands.1).elim
      | endedEarly =>
          obtain ⟨-, ended, told, -, path⟩ := stands
          rw [done] at ended
          cases ended
          exact .early rfl told path
      | launched planned =>
          have governed : life.session.Governed life.written life.session.supervisor := stands
          rw [done] at governed
          rcases governed with ⟨-, ⟨reason, untold, path⟩ | ⟨excuses, path⟩⟩
          · exact .complete reason untold path
          · exact .drained excuses path

theorem Concluded.told {session : Session σ} {written : List Lifecycle}
    (concluded : Concluded session written summary) (cancelled : summary.reason = .cancelled) :
    session.cancelled = true := by
  cases concluded with
  | early reason told path => exact told
  | complete reason untold path =>
      rw [cancelled] at reason
      cases reason
  | drained excuses path =>
      rw [cancelled] at excuses
      exact excuses

/-- No consumer of a run that was completed was cancelled, as long as somebody receives. -/
theorem Lived.uncancelled (lived : life.Lived) (found : life.session.summary? = some summary)
    (complete : summary.reason = .completed)
    (heard : life.session.crew.channel.receiving = true) {place : TopicPartition}
    {entry : PartitionSummary} (entered : summary.partitions.get? place = some entry) :
    entry.outcome ≠ .finished .cancelled := by
  have untold : life.session.crew.stop = false := by
    cases lived.stage.concluded found with
    | early reason told path =>
        rw [complete] at reason
        cases reason
    | complete reason untold path => exact untold
    | drained excuses path =>
        rw [complete] at excuses
        exact excuses.elim
  rw [(lived.drawn summary found).2] at entered
  have listed := OrderedMap.mem_of_mem_ofList (OrderedMap.mem_toList_iff.mpr entered)
  rcases List.mem_map.mp listed with ⟨consumer, -, pair_eq⟩
  cases pair_eq
  intro cancelled
  have uncancelled := lived.heeded.outcomes untold heard consumer.place
  simp only [OrderedMap.getD] at cancelled
  cases outcome : life.scene.session.outcomes.get? consumer.place with
  | none => simp [outcome] at cancelled
  | some kept =>
      rw [outcome] at cancelled uncancelled
      exact uncancelled (congrArg some cancelled)

end Safety

section Final

variable [Client β σ] [OffsetStore ρ] {others : β → β → Prop} {life after later : Life β σ ρ}

end Final

section Running

variable {life : Life β σ ρ}

end Running

variable [Client β σ] [OffsetStore ρ] {others : β → β → Prop} {life : Life β σ ρ}

section Idle

open Broker (Cursor LogBroker)
open Scene (Pick)
open Store (MemoryStore)

end Idle

end Life

end TopicReplay
