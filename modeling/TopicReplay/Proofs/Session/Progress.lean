import TopicReplay.Proofs.Store.Lawful
import TopicReplay.Session.Commit

/-!
# Progress

The progress of a session is a function of what was committed to it: at every partition
it is the offset behind the furthest event. The order of the commitments does not matter,
nor how often one is repeated.
-/

namespace TopicReplay

/-- One event that was processed, as a session is told of it. -/
structure Commitment where
  place : TopicPartition
  offset : Int
  deriving DecidableEq, Repr

namespace Commitment

/-- The offset behind the furthest event of a partition, if there is one. -/
def furthest? (place : TopicPartition) (commitments : List Commitment) : Option Int :=
  ((commitments.filter (·.place = place)).map (·.offset + 1)).max?

@[simp]
theorem furthest?_nil (place : TopicPartition) : furthest? place [] = none := rfl

theorem furthest?_append_self (commitments : List Commitment) (commitment : Commitment) :
    furthest? commitment.place (commitments ++ [commitment]) =
      some (((furthest? commitment.place commitments).map (max · (commitment.offset + 1))).getD
        (commitment.offset + 1)) := by
  have last : ([commitment].filter (·.place = commitment.place)).map (·.offset + 1) =
      [commitment.offset + 1] := by simp
  rw [furthest?, furthest?, List.filter_append, List.map_append, last]
  cases (commitments.filter (·.place = commitment.place)).map (·.offset + 1) with
  | nil => rfl
  | cons first rest =>
      rw [List.cons_append, List.max?_cons', List.max?_cons', List.foldl_append]
      rfl

theorem furthest?_append_of_ne {place : TopicPartition} (commitments : List Commitment)
    {commitment : Commitment} (apart : commitment.place ≠ place) :
    furthest? place (commitments ++ [commitment]) = furthest? place commitments := by
  simp [furthest?, apart]

theorem furthest?_eq_none_iff {place : TopicPartition} {commitments : List Commitment} :
    furthest? place commitments = none ↔
      ∀ commitment ∈ commitments, commitment.place ≠ place := by
  simp [furthest?]

/-- The furthest offset is behind some event of the partition, and behind all of them. -/
theorem furthest?_eq_some_iff {place : TopicPartition} {commitments : List Commitment}
    {next : Int} :
    furthest? place commitments = some next ↔
      (∃ commitment ∈ commitments, commitment.place = place ∧ commitment.offset + 1 = next) ∧
        ∀ commitment ∈ commitments, commitment.place = place → commitment.offset < next := by
  rw [furthest?, List.max?_eq_some_iff]
  simp only [List.mem_map, List.mem_filter, decide_eq_true_eq, forall_exists_index, and_imp]
  constructor
  · rintro ⟨⟨commitment, ⟨member, here⟩, next_eq⟩, bound⟩
    refine ⟨⟨commitment, member, here, next_eq⟩, fun other otherMember otherHere => ?_⟩
    have le := bound _ other otherMember otherHere rfl
    omega
  · rintro ⟨⟨commitment, member, here, next_eq⟩, bound⟩
    refine ⟨⟨commitment, ⟨member, here⟩, next_eq⟩, fun n other otherMember otherHere n_eq => ?_⟩
    have lt := bound other otherMember otherHere
    omega

open Store (Storable) in
/-- Where what is behind every event can be stored, what is behind the furthest one can. -/
theorem storable_furthest? {place : TopicPartition} {commitments : List Commitment} {next : Int}
    (fits : ∀ commitment ∈ commitments,
      Storable commitment.place.partition (commitment.offset + 1))
    (furthest : furthest? place commitments = some next) : Storable place.partition next := by
  rcases furthest?_eq_some_iff.mp furthest with ⟨⟨top, member, rfl, rfl⟩, -⟩
  exact fits top member

/-- The furthest offset asks only which events there are. -/
theorem furthest?_congr {place : TopicPartition} {commitments others : List Commitment}
    (same : commitments.Perm others) : furthest? place commitments = furthest? place others := by
  cases found : furthest? place others with
  | none =>
      rw [furthest?_eq_none_iff] at found ⊢
      exact fun commitment member => found commitment (same.mem_iff.mp member)
  | some next =>
      rw [furthest?_eq_some_iff] at found ⊢
      rcases found with ⟨⟨commitment, member, top⟩, bound⟩
      exact ⟨⟨commitment, same.mem_iff.mpr member, top⟩,
        fun other otherMember => bound other (same.mem_iff.mp otherMember)⟩

/-- More events leave the furthest offset alone exactly when none of them is further. -/
theorem furthest?_append_eq_left_iff {place : TopicPartition}
    {commitments later : List Commitment} :
    furthest? place (commitments ++ later) = furthest? place commitments ↔
      ∀ other ∈ later, other.place = place →
        ∃ same ∈ commitments, same.place = place ∧ other.offset ≤ same.offset := by
  cases found : furthest? place commitments with
  | none =>
      have missing := furthest?_eq_none_iff.mp found
      rw [furthest?_eq_none_iff]
      constructor
      · intro all_ne other member here
        exact absurd here (all_ne other (List.mem_append_right _ member))
      · intro passed other member here
        rcases List.mem_append.mp member with early | late
        · exact missing other early here
        · obtain ⟨same, sameMember, sameHere, -⟩ := passed other late here
          exact missing same sameMember sameHere
  | some next =>
      rcases furthest?_eq_some_iff.mp found with ⟨⟨top, topMember, topHere, top_eq⟩, bound⟩
      rw [furthest?_eq_some_iff]
      constructor
      · rintro ⟨-, above⟩ other member here
        have below := above other (List.mem_append_right _ member) here
        exact ⟨top, topMember, topHere, by omega⟩
      · intro passed
        refine ⟨⟨top, List.mem_append_left _ topMember, topHere, top_eq⟩, ?_⟩
        intro other member here
        rcases List.mem_append.mp member with early | late
        · exact bound other early here
        · obtain ⟨same, sameMember, sameHere, le⟩ := passed other late here
          have below := bound same sameMember sameHere
          omega

end Commitment

namespace Session

variable {σ : Type} (session : Session σ)

@[simp]
theorem settings_advance (place : TopicPartition) (offset : Int) :
    (session.advance place offset).settings = session.settings := rfl

@[simp]
theorem crew_advance (place : TopicPartition) (offset : Int) :
    (session.advance place offset).crew = session.crew := rfl

theorem next?_advance_self (place : TopicPartition) (offset : Int) :
    (session.advance place offset).next? place =
      some (((session.next? place).map (max · (offset + 1))).getD (offset + 1)) :=
  OrderedMap.get?_update_self _ _ _

theorem next?_advance_of_ne {place other : TopicPartition} (offset : Int) (apart : other ≠ place) :
    (session.advance place offset).next? other = session.next? other :=
  OrderedMap.get?_update_of_ne _ _ apart

variable {session}

/-- Progress that is the furthest of some commitments stays so when one more is made. -/
theorem next?_advance {commitments : List Commitment}
    (current : ∀ place, session.next? place = Commitment.furthest? place commitments)
    (commitment : Commitment) (place : TopicPartition) :
    (session.advance commitment.place commitment.offset).next? place =
      Commitment.furthest? place (commitments ++ [commitment]) := by
  by_cases here : commitment.place = place
  · subst here
    rw [next?_advance_self, Commitment.furthest?_append_self, current]
  · rw [next?_advance_of_ne _ _ (Ne.symm here), Commitment.furthest?_append_of_ne _ here, current]

open Store (OffsetStore) in
/-- Where progress is not beyond an event, committing the event stores the offset behind it. -/
theorem commit_of_le {ρ : Type} [OffsetStore ρ] {store : ρ} {stamp : Instant}
    {place : TopicPartition} {offset : Int} {after : Session σ} {stored : Except Store.Error ρ}
    (le : ∀ next, session.next? place = some next → next ≤ offset + 1)
    (commits : session.commit store stamp place offset = (after, stored)) :
    after = session.advance place offset ∧
      OffsetStore.commit store stamp ⟨session.settings.environment, place.topic⟩ place.partition
        (offset + 1) = stored := by
  rcases Prod.mk.inj commits with ⟨rfl, rfl⟩
  refine ⟨rfl, ?_⟩
  have next_eq : ((session.advance place offset).next? place).getD (offset + 1) = offset + 1 := by
    rw [next?_advance_self]
    cases found : session.next? place with
    | none => rfl
    | some next =>
        have below := le next found
        simp only [Option.map_some, Option.getD_some]
        omega
  rw [next_eq]
  rfl

end Session

end TopicReplay
