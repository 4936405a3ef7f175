import TopicReplay.Proofs.Broker.Part
import TopicReplay.Proofs.Session.Begin

/-!
# Planning with logs

Planning may create topics, but it leaves every partition that is there as it is. A
partition that is there is planned when its topic is asked for and its span is chosen.
-/

namespace TopicReplay

open Broker (Client Cursor LogBroker)

namespace Broker.LogBroker

variable {broker after : LogBroker} {place : TopicPartition} {n : Nat}

theorem same_create (located : broker.locate place = .ok n) (topic : String) (spec : TopicSpec) :
    broker.Same place (broker.create topic spec) := by
  rcases locate_eq_ok_iff.mp located with ⟨logs, listed, -, -⟩
  by_cases there : broker.topics.contains topic = true
  · rw [create_of_contains there]
    exact .refl place broker
  · have apart : place.topic ≠ topic := by
      rintro rfl
      exact there (by simp [OrderedMap.contains, listed])
    rw [create, if_neg there]
    exact ⟨locate_addTopic_of_ne broker spec.partitions apart,
      fun i _ => log_addTopic broker topic spec.partitions i, rfl⟩

/-- A partition that is there is listed. -/
theorem mem_partitions (located : broker.locate place = .ok n) :
    ∃ partitions, Client.partitions broker place.topic = .ok partitions ∧
      place.partition ∈ partitions := by
  rcases locate_eq_ok_iff.mp located with ⟨logs, listed, inside, found⟩
  refine ⟨(List.range logs.length).map Int.ofNat, ?_, ?_⟩
  · change broker.partitions place.topic = _
    rw [partitions, listed]
  · have below := (List.getElem?_eq_some_iff.mp found).choose
    exact List.mem_map.mpr
      ⟨place.partition.toNat, List.mem_range.mpr below, Int.toNat_of_nonneg inside⟩

end Broker.LogBroker

namespace Session

open Broker.LogBroker

variable {settings : Settings} {broker after : LogBroker} {place : TopicPartition} {n : Nat}

theorem same_fetchPartitions {topic : String} {listed : Except Broker.Error (List Int)}
    (located : broker.locate place = .ok n)
    (fetched : fetchPartitions settings broker topic = (listed, after)) :
    broker.Same place after := by
  unfold fetchPartitions at fetched
  split at fetched
  · split at fetched
    · rename_i created
      cases created
      rcases Prod.mk.inj fetched with ⟨-, rfl⟩
      exact same_create located topic _
    · rcases Prod.mk.inj fetched with ⟨-, rfl⟩
      exact .refl place broker
  · rcases Prod.mk.inj fetched with ⟨-, rfl⟩
    exact .refl place broker

theorem mem_of_fetchPartitions {listed : List Int} (located : broker.locate place = .ok n)
    (fetched : fetchPartitions settings broker place.topic = (.ok listed, after)) :
    place.partition ∈ listed := by
  obtain ⟨partitions, partitions_eq, member⟩ := mem_partitions located
  simp only [fetchPartitions, partitions_eq] at fetched
  cases fetched
  exact member

theorem mem_planTopic {selection : Selection} {partitions : List Int} {span : Span}
    (member : place.partition ∈ partitions)
    (chosen : (selection.choose place.partition).span? = some span) :
    ⟨place, span⟩ ∈ planTopic place.topic selection partitions :=
  List.mem_filterMap.mpr ⟨place.partition, member, by rw [chosen]; rfl⟩

/-- Planning leaves a partition that is there as it is, and plans it when it is asked for. -/
theorem same_planTopics {topics : List (String × Selection)}
    {planned : Except Broker.Error (List Planned)} (located : broker.locate place = .ok n)
    (done : planTopics settings topics broker = (planned, after)) :
    broker.Same place after ∧ ∀ {plans selection span}, planned = .ok plans →
      (place.topic, selection) ∈ topics →
        (selection.choose place.partition).span? = some span → ⟨place, span⟩ ∈ plans := by
  induction topics generalizing broker after planned with
  | nil =>
      rcases Prod.mk.inj done with ⟨-, rfl⟩
      exact ⟨.refl place broker, fun _ member => by cases member⟩
  | cons first rest ih =>
      rcases first with ⟨topic, selection⟩
      rw [planTopics] at done
      rcases fetched : fetchPartitions settings broker topic with ⟨listed, fetchedBroker⟩
      have same := same_fetchPartitions located fetched
      rw [fetched] at done
      cases listed with
      | error e =>
          rcases Prod.mk.inj done with ⟨rfl, rfl⟩
          exact ⟨same, fun planned_eq => by cases planned_eq⟩
      | ok partitions =>
          rcases later : planTopics settings rest fetchedBroker with ⟨restPlanned, restBroker⟩
          simp only [later] at done
          rcases Prod.mk.inj done with ⟨rfl, rfl⟩
          obtain ⟨restSame, restPlans⟩ := ih (same.located.trans located) later
          refine ⟨same.trans restSame, fun {plans chosen span} planned_eq asked spanned => ?_⟩
          cases restPlanned with
          | error e => cases planned_eq
          | ok others =>
              cases planned_eq
              rcases List.mem_cons.mp asked with here | there
              · cases here
                exact List.mem_append_left _
                  (mem_planTopic (mem_of_fetchPartitions located fetched) spanned)
              · exact List.mem_append_right _ (restPlans rfl there spanned)

end Session

namespace Scene

variable {ρ : Type} {settings : Settings} {born now : Nat} {topics : Session.Topics}
  {broker : LogBroker} {store : ρ} {begun : Scene LogBroker Cursor ρ} {place : TopicPartition}
  {n : Nat} {selection : Selection} {span : Span}

/-- A session that was started has a consumer for every partition that it was asked for. -/
theorem planned_of_start (located : broker.locate place = .ok n)
    (asked : topics.get? place.topic = some selection)
    (chosen : (selection.choose place.partition).span? = some span)
    (started : start settings born false topics now broker store = (.ok (), begun)) :
    broker.Same place begun.client ∧ ∃ consumer ∈ begun.session.crew.consumers,
      consumer.place = place ∧ consumer.span = span := by
  obtain ⟨session, client, rfl, starts⟩ := exists_starts started
  cases starts with
  | cancelled claims told =>
      rcases Session.claim_eq_ok_iff.mp claims with ⟨-, -, rfl⟩
      cases told
  | launched claims untold plans =>
      obtain ⟨same, plansOk⟩ := Session.same_planTopics located plans
      exact ⟨same, _, List.mem_map_of_mem
        (plansOk rfl (OrderedMap.mem_toList_iff.mpr asked) chosen), rfl, rfl⟩

end Scene

end TopicReplay
