import Mathlib.Data.List.Basic
import TopicReplay.Proofs.Session.Chronicle

/-!
# What the supervisor knows

The supervisor takes note of each consumer at most once, and only of consumers that have
ended by themselves. A consumer that was taken note of stays as it ended, even when the
others are given up. What the supervisor keeps as the outcome of a partition is therefore
how the consumer of the partition ended, and the errors that were reported are those that
consumers got over and one for each failure that the supervisor took note of.
-/

namespace TopicReplay

open Broker (Client)
open Relation (ReflTransGen)
open Store (OffsetStore)

namespace Ending

/-- What the supervisor keeps of an ending that it takes note of. -/
def outcome? : Ending → Option PartitionOutcome
  | .finished t => some (.finished t)
  | .failed e => some (.failed e.message)
  | .crashed | .aborted => none

/-- The error of a failure. -/
def error? : Ending → Option RunError
  | .failed e => some e
  | .finished _ | .crashed | .aborted => none

end Ending

namespace Session

variable {σ : Type} (session : Session σ) (place : TopicPartition) (ending : Ending)

/-- What is kept of the partition that was taken note of. -/
theorem get?_outcomes_note_self :
    (session.note place ending).outcomes.get? place =
      ending.outcome?.or (session.outcomes.get? place) := by
  cases ending <;> simp [note, Ending.outcome?]

theorem get?_outcomes_note_of_ne {other : TopicPartition} (apart : other ≠ place) :
    (session.note place ending).outcomes.get? other = session.outcomes.get? other := by
  cases ending with
  | finished t => exact OrderedMap.get?_insert_of_ne _ _ apart
  | failed e => exact OrderedMap.get?_insert_of_ne _ _ apart
  | crashed => rfl
  | aborted => rfl

/-- What is kept is kept of the ending that was taken note of, or from before. -/
theorem get?_outcomes_note_cases {other : TopicPartition} {outcome : PartitionOutcome}
    (kept : (session.note place ending).outcomes.get? other = some outcome) :
    ending.outcome? = some outcome ∨ session.outcomes.get? other = some outcome := by
  by_cases here : other = place
  · rw [here, get?_outcomes_note_self] at kept
    rw [here]
    exact (Option.or_eq_some_iff.mp kept).imp_right And.right
  · rw [get?_outcomes_note_of_ne _ _ _ here] at kept
    exact .inr kept

theorem reports_note :
    (session.note place ending).crew.reports =
      session.crew.reports ++ ending.error?.toList.map (PartitionError.mk place) := by
  cases ending <;> simp [note, Ending.error?, Crew.report]

/-- Taking note of the consumer at a place is taking note of its partition. -/
theorem noteAt_eq {index : Nat} {consumer : Consumer σ} {ending : Ending}
    (found : session.crew.consumers[index]? = some consumer)
    (ended : consumer.ending? = some ending) (rest : List Nat) :
    session.noteAt index rest = (session.leave rest).note consumer.place ending := by
  simp [noteAt, found, ended]

end Session

namespace Consumer

variable {β σ ρ : Type} [Client β σ] [OffsetStore ρ] {around : Surroundings β ρ}
  {consumer : Consumer σ} {outcome : Outcome β σ}

/-- No consumer ends as one that was given up. -/
theorem Move.ending?_ne_aborted (move : Move around consumer outcome) :
    outcome.consumer.ending? ≠ some .aborted := by
  cases move <;> simp [ending?]

end Consumer

namespace Crew

variable {σ : Type}

theorem retire_of_ended {consumer : Consumer σ} {ending : Ending}
    (ended : consumer.ending? = some ending) : retire consumer = consumer := by
  simp [retire, ended]

@[simp]
theorem reports_absorb (crew : Crew σ) (now : Nat) (place : TopicPartition)
    (emission : Consumer.Emission) :
    (crew.absorb now place emission).reports =
      crew.reports ++ emission.reports.map (PartitionError.mk place) := by
  cases emission <;> simp [absorb, report, Consumer.Emission.reports]

end Crew

namespace Chronicle

variable {β σ ρ : Type}

/-- The consumer at a place in the crew. -/
def consumer? (chronicle : Chronicle β σ ρ) (index : Nat) : Option (Consumer σ) :=
  chronicle.scene.session.crew.consumers[index]?

/-- The consumers that were taken note of and those that wait for it. -/
def ended (chronicle : Chronicle β σ ρ) : List Nat :=
  chronicle.joined ++ chronicle.scene.session.crew.unnoted

/-- Whether the consumer of a partition was taken note of, and how it had ended. -/
def Joined (chronicle : Chronicle β σ ρ) (place : TopicPartition) (ending : Ending) : Prop :=
  ∃ index ∈ chronicle.joined, ∃ consumer, chronicle.consumer? index = some consumer ∧
    consumer.place = place ∧ consumer.ending? = some ending

/-- Consumers of one partition are one consumer. -/
theorem index_eq_of_place_eq {chronicle : Chronicle β σ ρ}
    (distinct : chronicle.scene.places.Nodup) {index other : Nat} {consumer second : Consumer σ}
    (found : chronicle.consumer? index = some consumer)
    (secondFound : chronicle.consumer? other = some second)
    (same : consumer.place = second.place) : index = other := by
  have inside := (List.getElem?_eq_some_iff.mp found).choose
  apply (List.getElem?_inj (by simpa [Scene.places] using inside) distinct).mp
  simp only [consumer?] at found secondFound
  simp [Scene.places, found, secondFound, same]

/-! ## Who has ended -/

/-- Whether those that are known to have ended are the consumers that have ended by
themselves, each of them once. None is missing as long as the summary is not drawn up. -/
structure Roster (chronicle : Chronicle β σ ρ) : Prop where
  nodup : chronicle.ended.Nodup
  ended : ∀ index ∈ chronicle.ended, ∃ consumer ending, chronicle.consumer? index = some consumer ∧
    consumer.ending? = some ending ∧ ending ≠ .aborted
  known : chronicle.scene.session.summary? = none → ∀ index consumer ending,
    chronicle.consumer? index = some consumer → consumer.ending? = some ending →
      index ∈ chronicle.ended

variable [Client β σ] [OffsetStore ρ] {others : β → β → Prop} {chronicle after : Chronicle β σ ρ}

omit [Client β σ] [OffsetStore ρ] in
/-- Nobody has ended in the scene in which a session was started. -/
theorem roster_of_fresh {settings : Settings} {scene : Scene β σ ρ} (fresh : scene.Fresh settings)
    (unnoted : scene.session.crew.unnoted = []) : Roster { scene } where
  nodup := by simp [Chronicle.ended, unnoted]
  ended index member := by simp [Chronicle.ended, unnoted] at member
  known _ index consumer ending found ended := by
    have phase := (fresh.consumers consumer (List.mem_of_getElem? found)).2
    rw [Consumer.ending?, phase] at ended
    cases ended

/-- A consumer that has ended by itself stays as it is. -/
theorem Roster.consumer?_eq (roster : chronicle.Roster) (step : Step others chronicle after)
    {index : Nat} (member : index ∈ chronicle.ended) :
    after.consumer? index = chronicle.consumer? index := by
  rcases roster.ended index member with ⟨consumer, ending, found, ended, -⟩
  unfold consumer? at found ⊢
  cases step with
  | work worked =>
      rcases Scene.workAt?_eq_some_iff.mp worked with ⟨worker, outcome, works, rfl⟩
      simp only [Scene.consumers_work]
      apply List.getElem?_set_ne
      rintro rfl
      have worker_eq : worker = consumer := Option.some.inj (works.found.symm.trans found)
      have going := works.moves.going
      rw [worker_eq, ended] at going
      cases going
  | join undone waits => simp
  | rule supervised moved why =>
      rcases supervised.kept.consumers with same | ⟨retired, -⟩
      · simp [same]
      · simp [retired, found, Crew.retire_of_ended ended]
  | aside aside => rw [aside.unmoved.consumers]

omit [Client β σ] [OffsetStore ρ] in
/-- A roster stays right as long as nobody joins it and those who are on it stay as they are. -/
theorem Roster.of_subset (roster : chronicle.Roster)
    (fewer : after.ended.Sublist chronicle.ended)
    (same : ∀ index ∈ chronicle.ended, after.consumer? index = chronicle.consumer? index)
    (known : after.scene.session.summary? = none → ∀ index consumer ending,
      after.consumer? index = some consumer → consumer.ending? = some ending →
        index ∈ after.ended) : after.Roster where
  nodup := roster.nodup.sublist fewer
  ended index member := by
    rw [same index (fewer.subset member)]
    exact roster.ended index (fewer.subset member)
  known := known

omit [Client β σ] [OffsetStore ρ] in
theorem Roster.of_eq (roster : chronicle.Roster) (ended_eq : after.ended = chronicle.ended)
    (same : ∀ index, after.consumer? index = chronicle.consumer? index)
    (undone : after.scene.session.summary? = none → chronicle.scene.session.summary? = none) :
    after.Roster := by
  apply roster.of_subset (ended_eq ▸ .refl _) fun index _ => same index
  intro open_ index consumer ending found ended
  rw [ended_eq]
  exact roster.known (undone open_) index consumer ending ((same index).symm.trans found) ended

omit [Client β σ] [OffsetStore ρ] in
/-- One more consumer has ended by itself. -/
theorem Roster.append (roster : chronicle.Roster) {index : Nat} {consumer : Consumer σ}
    {ending : Ending} (fresh : index ∉ chronicle.ended)
    (ended_eq : after.ended = chronicle.ended ++ [index])
    (same : ∀ other ≠ index, after.consumer? other = chronicle.consumer? other)
    (placed : after.consumer? index = some consumer) (ends : consumer.ending? = some ending)
    (byItself : ending ≠ .aborted)
    (undone : after.scene.session.summary? = none → chronicle.scene.session.summary? = none) :
    after.Roster where
  nodup := by
    rw [ended_eq]
    apply List.nodup_append.mpr
    refine ⟨roster.nodup, List.pairwise_singleton _ index, fun other member last lastMember => ?_⟩
    rw [List.mem_singleton.mp lastMember]
    exact ne_of_mem_of_not_mem member fresh
  ended other member := by
    rcases List.mem_append.mp (ended_eq ▸ member) with old | new
    · rw [same other (ne_of_mem_of_not_mem old fresh)]
      exact roster.ended other old
    · rw [List.mem_singleton.mp new]
      exact ⟨consumer, ending, placed, ends, byItself⟩
  known open_ other otherConsumer otherEnding found ended := by
    rw [ended_eq]
    by_cases here : other = index
    · exact List.mem_append_right _ (List.mem_singleton.mpr here)
    · rw [same other here] at found
      exact List.mem_append_left _
        (roster.known (undone open_) other otherConsumer otherEnding found ended)

theorem Roster.work (roster : chronicle.Roster) {index : Nat} {consumer : Consumer σ}
    {outcome : Consumer.Outcome β σ} (works : chronicle.scene.Works index consumer outcome)
    (scene_eq : after.scene = chronicle.scene.work index consumer outcome)
    (joined_eq : after.joined = chronicle.joined) : after.Roster := by
  have fresh : index ∉ chronicle.ended := by
    intro member
    rcases roster.ended index member with ⟨other, ending, found, ended, -⟩
    have going := works.moves.going
    rw [Option.some.inj (works.found.symm.trans found), ended] at going
    cases going
  have apart (other : Nat) (ne : other ≠ index) :
      after.consumer? other = chronicle.consumer? other := by
    rw [consumer?, scene_eq, Scene.consumers_work]
    exact List.getElem?_set_ne ne.symm
  have placed : after.consumer? index = some outcome.consumer := by
    rw [consumer?, scene_eq]
    exact works.getElem?_work
  have undone (open_ : after.scene.session.summary? = none) :
      chronicle.scene.session.summary? = none := by
    rw [scene_eq] at open_
    exact open_
  have unnoted_eq : after.scene.session.crew.unnoted = if outcome.consumer.ending?.isSome
      then chronicle.scene.session.crew.unnoted ++ [index]
      else chronicle.scene.session.crew.unnoted := by
    rw [scene_eq, Scene.work, Crew.unnoted_absorb]
    rfl
  cases ended : outcome.consumer.ending? with
  | some ending =>
      apply roster.append fresh _ apart placed ended _ undone
      · simp [Chronicle.ended, joined_eq, unnoted_eq, ended]
      · rintro rfl
        exact works.moves.ending?_ne_aborted ended
  | none =>
      have ended_eq : after.ended = chronicle.ended := by
        simp [Chronicle.ended, joined_eq, unnoted_eq, ended]
      apply roster.of_subset (ended_eq ▸ .refl _)
      · exact fun other member => apart other (ne_of_mem_of_not_mem member fresh)
      · intro open_ other otherConsumer ending found otherEnded
        rw [ended_eq]
        by_cases here : other = index
        · rw [here, placed] at found
          rw [Option.some.inj found, otherEnded] at ended
          cases ended
        · rw [apart other here] at found
          exact roster.known (undone open_) other otherConsumer ending found otherEnded

theorem Roster.step (roster : chronicle.Roster) (step : Step others chronicle after) :
    after.Roster := by
  have same (index : Nat) (member : index ∈ chronicle.ended) :
      after.consumer? index = chronicle.consumer? index := roster.consumer?_eq step member
  cases step with
  | work worked =>
      rcases Scene.workAt?_eq_some_iff.mp worked with ⟨consumer, outcome, works, rfl⟩
      exact roster.work works rfl rfl
  | join undone waits =>
      apply roster.of_eq
      · simp [Chronicle.ended, waits]
      · exact fun index => by simp [consumer?]
      · exact fun _ => undone
  | rule supervised moved why =>
      cases supervised with
      | noted undone joined => exact absurd (Session.supervisor_of_join? joined) moved
      | completed watching settled =>
          refine roster.of_subset (.refl _) same ?_
          intro undone
          cases undone
      | told watching _ =>
          exact roster.of_eq rfl (fun _ => rfl) fun _ => by simp [Session.summary?, watching]
      | drained draining settled =>
          refine roster.of_subset (.refl _) same ?_
          intro undone
          cases undone
      | gaveUp draining late aborted =>
          refine roster.of_subset ?_ same ?_
          · cases aborted
            exact List.Sublist.append_left (List.nil_sublist _) _
          · intro undone
            cases undone
  | aside aside =>
      have unmoved := aside.unmoved
      apply roster.of_eq
      · rw [Chronicle.ended, unmoved.unnoted, Chronicle.ended]
      · exact fun index => by rw [consumer?, unmoved.consumers, consumer?]
      · rw [Session.summary?, unmoved.supervisor, Session.summary?]
        exact id

/-! ## What is on record -/

omit [Client β σ] [OffsetStore ρ] in
/-- The errors that consumers got over, as they are reported. -/
def passed (chronicle : Chronicle β σ ρ) : List PartitionError :=
  chronicle.met.map fun met => ⟨met.1, .broker met.2⟩

/-- The failure of the consumer at a place in the crew. -/
def failure? (chronicle : Chronicle β σ ρ) (index : Nat) : Option PartitionError :=
  (chronicle.consumer? index).bind fun consumer =>
    (consumer.ending?.bind Ending.error?).map (PartitionError.mk consumer.place)

/-- The failures that the supervisor took note of. -/
def failures (chronicle : Chronicle β σ ρ) : List PartitionError :=
  chronicle.joined.filterMap chronicle.failure?

/-- Whether the outcomes and the reports of a session are those of the consumers that the
supervisor took note of. -/
structure Recorded (chronicle : Chronicle β σ ρ) : Prop where
  outcomes : ∀ place outcome, chronicle.scene.session.outcomes.get? place = some outcome ↔
    ∃ ending, chronicle.Joined place ending ∧ ending.outcome? = some outcome
  reports : chronicle.scene.session.crew.reports.Perm (chronicle.passed ++ chronicle.failures)

omit [Client β σ] [OffsetStore ρ] in
theorem joined_congr (joined_eq : after.joined = chronicle.joined)
    (same : ∀ index ∈ chronicle.joined, after.consumer? index = chronicle.consumer? index)
    (place : TopicPartition) (ending : Ending) :
    after.Joined place ending ↔ chronicle.Joined place ending := by
  unfold Joined
  rw [joined_eq]
  apply exists_congr
  intro index
  apply and_congr_right
  intro member
  rw [same index member]

omit [Client β σ] [OffsetStore ρ] in
theorem failures_congr (joined_eq : after.joined = chronicle.joined)
    (same : ∀ index ∈ chronicle.joined, after.consumer? index = chronicle.consumer? index) :
    after.failures = chronicle.failures := by
  rw [failures, joined_eq, failures]
  apply List.filterMap_congr
  intro index member
  rw [failure?, same index member, failure?]

omit [Client β σ] [OffsetStore ρ] in
/-- What is on record stays right as long as nobody is taken note of. -/
theorem Recorded.of_eq (recorded : chronicle.Recorded)
    (outcomes : after.scene.session.outcomes = chronicle.scene.session.outcomes)
    (reports : after.scene.session.crew.reports.Perm (after.passed ++ chronicle.failures))
    (joined_eq : after.joined = chronicle.joined)
    (same : ∀ index ∈ chronicle.joined, after.consumer? index = chronicle.consumer? index) :
    after.Recorded where
  outcomes place outcome := by
    rw [outcomes, recorded.outcomes]
    exact exists_congr fun ending => and_congr_left fun _ => (joined_congr joined_eq same _ _).symm
  reports := by
    rw [failures_congr joined_eq same]
    exact reports

omit [Client β σ] [OffsetStore ρ] in
theorem recorded_of_fresh {scene : Scene β σ ρ} (outcomes : scene.session.outcomes = .empty)
    (reports : scene.session.crew.reports = []) : Recorded { scene } where
  outcomes place outcome := by simp [outcomes, Joined]
  reports := by simp [reports, passed, failures]

omit [Client β σ] [OffsetStore ρ] in
/-- Taking note of a consumer puts on record how it ended. -/
theorem Recorded.join (recorded : chronicle.Recorded) (roster : chronicle.Roster)
    (distinct : chronicle.scene.places.Nodup) {index : Nat} {rest : List Nat}
    (waits : chronicle.scene.session.crew.unnoted = index :: rest)
    (session_eq : after.scene.session = chronicle.scene.session.noteAt index rest)
    (met_eq : after.met = chronicle.met)
    (joined_eq : after.joined = chronicle.joined ++ [index]) : after.Recorded := by
  have same (other : Nat) : after.consumer? other = chronicle.consumer? other := by
    rw [consumer?, session_eq, Session.consumers_noteAt, consumer?]
  have waiting : index ∈ chronicle.ended := by simp [Chronicle.ended, waits]
  rcases roster.ended index waiting with ⟨consumer, ending, found, ended, -⟩
  have fresh : index ∉ chronicle.joined := by
    have nodup := roster.nodup
    rw [Chronicle.ended, waits] at nodup
    exact fun member => (List.nodup_append.mp nodup).2.2 index member index List.mem_cons_self rfl
  have noted := chronicle.scene.session.noteAt_eq found ended rest
  have joined_iff (place : TopicPartition) (other : Ending) : after.Joined place other ↔
      chronicle.Joined place other ∨ consumer.place = place ∧ ending = other := by
    unfold Joined
    simp only [joined_eq, List.mem_append, List.mem_singleton, or_and_right, exists_or,
      exists_eq_left, same, found, Option.some.injEq, exists_eq_left', ended]
  have unjoined (other : Ending) : ¬chronicle.Joined consumer.place other := by
    rintro ⟨early, member, earlyConsumer, earlyFound, place_eq, -⟩
    have index_eq : index = early := index_eq_of_place_eq distinct found earlyFound place_eq.symm
    exact fresh (index_eq ▸ member)
  constructor
  · intro place outcome
    rw [session_eq, noted]
    by_cases here : place = consumer.place
    · subst here
      have before : (chronicle.scene.session.leave rest).outcomes.get? consumer.place = none := by
        cases kept : chronicle.scene.session.outcomes.get? consumer.place with
        | none => exact kept
        | some early =>
            rcases (recorded.outcomes _ _).mp kept with ⟨other, joined, -⟩
            exact absurd joined (unjoined other)
      simp [Session.get?_outcomes_note_self, before, joined_iff, unjoined]
    · rw [Session.get?_outcomes_note_of_ne _ _ _ here]
      simp [joined_iff, Ne.symm here, Session.leave, recorded.outcomes]
  · have last_eq : (after.failure? index).toList =
        ending.error?.toList.map (PartitionError.mk consumer.place) := by
      rw [failure?, same, found, Option.bind_some, ended, Option.bind_some]
      cases ending.error? <;> rfl
    have before_eq : chronicle.joined.filterMap after.failure? = chronicle.failures := by
      apply List.filterMap_congr
      intro other _
      rw [failure?, same, failure?]
    have failures_eq : after.failures = chronicle.failures ++
        ending.error?.toList.map (PartitionError.mk consumer.place) := by
      rw [failures, joined_eq, List.filterMap_append, before_eq, ← last_eq, List.filterMap_cons]
      cases after.failure? index <;> rfl
    rw [session_eq, noted, Session.reports_note, failures_eq, passed, met_eq, ← List.append_assoc]
    exact recorded.reports.append_right _

/-- What is on record stays right. -/
theorem Recorded.step (recorded : chronicle.Recorded) (roster : chronicle.Roster)
    (distinct : chronicle.scene.places.Nodup) (step : Step others chronicle after) :
    after.Recorded := by
  have same (index : Nat) (member : index ∈ chronicle.joined) :
      after.consumer? index = chronicle.consumer? index :=
    roster.consumer?_eq step (List.mem_append_left _ member)
  cases step with
  | @work index _ worked =>
      rcases Scene.workAt?_eq_some_iff.mp worked with ⟨consumer, outcome, works, rfl⟩
      have met_eq : (chronicle.meeting index).map (fun met => ⟨met.1, .broker met.2⟩) =
          outcome.emission.reports.map (PartitionError.mk consumer.place) := by
        rw [works.moves.reports_eq, meeting, works.found]
        simp [Function.comp_def]
      refine recorded.of_eq rfl ?_ rfl same
      simp only [Scene.work, Crew.reports_absorb, passed, List.map_append, met_eq]
      apply (recorded.reports.append_right _).trans
      rw [List.append_assoc, List.append_assoc]
      exact List.perm_append_comm.append_left _
  | join undone waits => exact recorded.join roster distinct waits rfl rfl rfl
  | rule supervised moved why =>
      have reports := recorded.reports
      cases supervised with
      | noted undone joined => exact absurd (Session.supervisor_of_join? joined) moved
      | completed watching settled => exact recorded.of_eq rfl reports rfl same
      | told watching _ => exact recorded.of_eq rfl reports rfl same
      | drained draining settled => exact recorded.of_eq rfl reports rfl same
      | gaveUp draining late aborted =>
          cases aborted
          exact recorded.of_eq rfl reports rfl same
  | aside aside =>
      have unmoved := aside.unmoved
      refine recorded.of_eq unmoved.outcomes ?_ rfl same
      rw [unmoved.reports]
      exact recorded.reports

end Chronicle

end TopicReplay
