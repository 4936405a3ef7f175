import Mathlib.Logic.Relation
import TopicReplay.Broker.Log
import TopicReplay.Proofs.Session.Progress
import TopicReplay.Proofs.Store.Lawful

/-!
# Overlapping commitments

Committing takes two steps: progress is noted in the session, and what was noted is
stored. Calls that overlap can do their second steps in another order than their first
ones. Progress is then right for every order, but the store keeps what the last call to
reach it carries, which may be less. `storedOffset?_eq_next?_iff` says exactly when the two
agree, and `overlap_loses_update` that they may not.
-/

namespace TopicReplay

open Relation (ReflTransGen)
open Store (OffsetStore LawfulStore Storable)
open Consumer (storedOffset?)

/-- Calls that commit to one session at the same time. -/
structure Overlap (σ ρ : Type) where
  session : Session σ
  store : ρ
  /-- The calls that have done nothing yet. -/
  waiting : List Commitment
  /-- The calls that have noted progress, with what they are about to store. -/
  holding : List (Commitment × Int) := []
  /-- All calls that have noted progress, in the order in which they did. -/
  noted : List Commitment := []
  /-- The calls that have returned, with what they stored, in the order in which they did. -/
  landed : List (Commitment × Int) := []

namespace Overlap

variable {σ ρ : Type} [OffsetStore ρ]

/-- Calls of which none has begun. -/
def start (session : Session σ) (store : ρ) (calls : List Commitment) : Overlap σ ρ where
  session := session
  store := store
  waiting := calls

/-- Whether all calls have returned. -/
def HasReturned (overlap : Overlap σ ρ) : Prop := overlap.waiting = [] ∧ overlap.holding = []

/-- One step of one call. No attempt to store fails. -/
inductive Step (overlap : Overlap σ ρ) : Overlap σ ρ → Prop where
  | note {before after : List Commitment} {call : Commitment} {session : Session σ} {next : Int}
      (waiting : overlap.waiting = before ++ call :: after)
      (advances : overlap.session.advance call.place call.offset = session)
      (carries : (session.next? call.place).getD (call.offset + 1) = next) :
      Step overlap { overlap with
        session
        waiting := before ++ after
        holding := (call, next) :: overlap.holding
        noted := overlap.noted ++ [call] }
  | land (stamp : Instant) {before after : List (Commitment × Int)} {call : Commitment}
      {next : Int} {store : ρ}
      (holding : overlap.holding = before ++ (call, next) :: after)
      (persists : overlap.session.persist overlap.store stamp call.place next = .ok store) :
      Step overlap { overlap with
        store
        holding := before ++ after
        landed := overlap.landed ++ [(call, next)] }

/-- A call that no other call interrupts is a commitment to the session. -/
theorem reaches_of_commit {session after : Session σ} {store stored : ρ} {stamp : Instant}
    {call : Commitment}
    (commits : session.commit store stamp call.place call.offset = (after, .ok stored)) :
    ∃ last, ReflTransGen Step (start session store [call]) last ∧ last.HasReturned ∧
      last.session = after ∧ last.store = stored := by
  rcases Prod.mk.inj commits with ⟨rfl, persists⟩
  refine ⟨_, .tail (.single (.note (List.nil_append _).symm rfl rfl))
    (.land stamp (List.nil_append _).symm persists), ⟨rfl, rfl⟩, rfl, rfl⟩

/-- Whether a call carries the furthest offset of all calls up to it. -/
def Carries (noted : List Commitment) (write : Commitment × Int) : Prop :=
  ∃ earlier later, noted = earlier ++ write.1 :: later ∧
    Commitment.furthest? write.1.place (earlier ++ [write.1]) = some write.2

omit [OffsetStore ρ] in
theorem Carries.append {noted : List Commitment} {write : Commitment × Int}
    (carries : Carries noted write) (call : Commitment) : Carries (noted ++ [call]) write := by
  rcases carries with ⟨earlier, later, noted_eq, furthest⟩
  exact ⟨earlier, later ++ [call], by simp [noted_eq], furthest⟩

/-- What the last call at a partition has stored, if there was one. -/
def lastLanded? (overlap : Overlap σ ρ) (place : TopicPartition) : Option (Commitment × Int) :=
  (overlap.landed.filter (·.1.place = place)).getLast?

/-- What is true whenever the calls that began with `overlap` have done some steps. -/
structure Traced (first overlap : Overlap σ ρ) : Prop where
  settings : overlap.session.settings = first.session.settings
  calls : (overlap.noted ++ overlap.waiting).Perm first.waiting
  returned : ((overlap.holding ++ overlap.landed).map (·.1)).Perm overlap.noted
  progress : ∀ place, overlap.session.next? place = Commitment.furthest? place overlap.noted
  carries : ∀ write ∈ overlap.holding ++ overlap.landed, Carries overlap.noted write
  stored : ∀ place, storedOffset? overlap.store overlap.session.settings.environment place =
    match overlap.lastLanded? place with
    | some write => some write.2
    | none => storedOffset? first.store first.session.settings.environment place

theorem traced_start {session : Session σ} {store : ρ} {calls : List Commitment}
    (fresh : ∀ place, session.next? place = none) :
    Traced (start session store calls) (start session store calls) where
  settings := rfl
  calls := .refl _
  returned := .refl _
  progress := fresh
  carries _ member := absurd member List.not_mem_nil
  stored _ := rfl

variable {first overlap after : Overlap σ ρ}

/-- What a call carries is behind an event of its partition. -/
theorem Traced.storable (traced : Traced first overlap)
    (fits : ∀ call ∈ first.waiting, Storable call.place.partition (call.offset + 1))
    {write : Commitment × Int} (member : write ∈ overlap.holding ++ overlap.landed) :
    Storable write.1.place.partition write.2 := by
  obtain ⟨earlier, later, noted_eq, furthest⟩ := traced.carries write member
  apply Commitment.storable_furthest? _ furthest
  intro call early
  have noted : call ∈ overlap.noted := by
    rw [noted_eq, List.append_cons]
    exact List.mem_append_left _ early
  exact fits call (traced.calls.mem_iff.mp (List.mem_append_left _ noted))

/-- Every step of a call keeps the trace. -/
theorem Traced.step [LawfulStore ρ] (traced : Traced first overlap)
    (fits : ∀ call ∈ first.waiting, Storable call.place.partition (call.offset + 1))
    (step : Step overlap after) : Traced first after := by
  cases step with
  | @note before rest call session next waiting advances carries =>
      subst advances
      have progress := Session.next?_advance traced.progress call
      constructor
      · exact traced.settings
      · apply List.Perm.trans _ traced.calls
        rw [waiting]
        simp only [List.append_assoc, List.singleton_append]
        exact .append_left _ List.perm_middle.symm
      · apply List.Perm.trans (.cons call traced.returned)
        exact (List.perm_append_singleton call overlap.noted).symm
      · exact progress
      · intro write member
        rcases List.mem_cons.mp member with rfl | older
        · refine ⟨overlap.noted, [], rfl, ?_⟩
          rw [progress, Commitment.furthest?_append_self] at carries
          rw [← carries, Commitment.furthest?_append_self]
          rfl
        · exact (traced.carries write older).append call
      · exact traced.stored
  | @land stamp before rest call next store holding persists =>
      have held : (call, next) ∈ overlap.holding ++ overlap.landed := by simp [holding]
      have moved : (before ++ rest ++ (overlap.landed ++ [(call, next)])).Perm
          (overlap.holding ++ overlap.landed) := by
        rw [holding, ← List.append_assoc]
        apply (List.perm_append_singleton _ _).trans
        rw [← List.cons_append]
        exact .append_right _ List.perm_middle.symm
      constructor
      · exact traced.settings
      · exact traced.calls
      · exact .trans (.map _ moved) traced.returned
      · exact traced.progress
      · exact fun write member => traced.carries write (moved.mem_iff.mp member)
      · intro place
        have after_eq := LawfulStore.storedOffset?_commit (traced.storable fits held) persists
          overlap.session.settings.environment place
        simp only at after_eq ⊢
        rw [after_eq]
        by_cases here : place = call.place
        · simp [lastLanded?, here]
        · rw [if_neg fun both => here both.2, traced.stored]
          simp [lastLanded?, Ne.symm here]

theorem Traced.run [LawfulStore ρ] (traced : Traced first overlap)
    (fits : ∀ call ∈ first.waiting, Storable call.place.partition (call.offset + 1))
    (runs : ReflTransGen Step overlap after) : Traced first after := by
  induction runs with
  | refl => exact traced
  | tail _ step ih => exact ih.step fits step

omit [OffsetStore ρ] in
/-- The last call at a partition to reach the store is one of its calls. -/
theorem mem_of_lastLanded? {place : TopicPartition} {write : Commitment × Int}
    (found : overlap.lastLanded? place = some write) :
    write ∈ overlap.landed ∧ write.1.place = place := by
  have member := List.mem_of_getLast? found
  rw [List.mem_filter] at member
  exact ⟨member.1, by simpa using member.2⟩

/-- Where all calls have returned, some call of every partition was the last to land. -/
theorem Traced.exists_lastLanded? (traced : Traced first overlap) (returned : overlap.HasReturned)
    {call : Commitment} (member : call ∈ first.waiting) :
    ∃ write, overlap.lastLanded? call.place = some write := by
  rcases returned with ⟨waiting, holding⟩
  have noted : call ∈ overlap.noted := by
    have either := traced.calls.mem_iff.mpr member
    rwa [waiting, List.append_nil] at either
  have landed := traced.returned.mem_iff.mpr noted
  rw [holding, List.nil_append] at landed
  rcases List.mem_map.mp landed with ⟨write, writeMember, rfl⟩
  cases found : overlap.lastLanded? write.1.place with
  | some last => exact ⟨last, rfl⟩
  | none =>
      have here := List.getLast?_eq_none_iff.mp found
      rw [List.filter_eq_nil_iff] at here
      exact absurd (by simp) (here write writeMember)

/-- When calls on a fresh session have returned and none of them failed, the progress of
every partition is behind the furthest event that was committed. What is stored is what
the last call to reach the store carries: the furthest offset of the calls that noted
progress up to it. The two agree exactly when no later call was further. -/
theorem storedOffset?_eq_next?_iff [LawfulStore ρ] {session : Session σ} {store : ρ}
    {calls : List Commitment} {last : Overlap σ ρ}
    (fresh : ∀ place, session.next? place = none)
    (fits : ∀ call ∈ calls, Storable call.place.partition (call.offset + 1))
    (runs : ReflTransGen Step (start session store calls) last) (returned : last.HasReturned)
    {call : Commitment} (member : call ∈ calls) :
    last.session.next? call.place = Commitment.furthest? call.place calls ∧
      ∃ earlier write later next, last.noted = earlier ++ write :: later ∧
        last.lastLanded? call.place = some (write, next) ∧
        storedOffset? last.store session.settings.environment call.place =
          Commitment.furthest? call.place (earlier ++ [write]) ∧
        (storedOffset? last.store session.settings.environment call.place =
            last.session.next? call.place ↔
          ∀ other ∈ later, other.place = call.place →
            ∃ same ∈ earlier ++ [write], same.place = call.place ∧ other.offset ≤ same.offset) := by
  have traced := (traced_start fresh).run fits runs
  have noted_perm : last.noted.Perm calls := by
    have perm := traced.calls
    rwa [returned.1, List.append_nil] at perm
  have progress := traced.progress call.place
  refine ⟨progress.trans (Commitment.furthest?_congr noted_perm), ?_⟩
  obtain ⟨⟨write, next⟩, found⟩ := traced.exists_lastLanded? returned member
  obtain ⟨writeMember, here⟩ := mem_of_lastLanded? found
  simp only at here
  obtain ⟨earlier, later, noted_eq, furthest⟩ :=
    traced.carries _ (List.mem_append_right _ writeMember)
  simp only [here] at noted_eq furthest
  have stored := traced.stored call.place
  rw [found, traced.settings] at stored
  have stored_eq : storedOffset? last.store session.settings.environment call.place =
      Commitment.furthest? call.place (earlier ++ [write]) := stored.trans furthest.symm
  refine ⟨earlier, write, later, next, noted_eq, found, stored_eq, ?_⟩
  have split_eq : last.noted = (earlier ++ [write]) ++ later := by simp [noted_eq]
  rw [stored_eq, progress, split_eq, eq_comm]
  exact Commitment.furthest?_append_eq_left_iff

section Crossed

open Broker (Cursor)
open Store (MemoryStore)

/-- A partition that two calls commit to. -/
def crossedPlace : TopicPartition := ⟨"orders", 0⟩

/-- Two calls of which the second one is further. -/
def crossedCalls : List Commitment := [⟨crossedPlace, 4⟩, ⟨crossedPlace, 9⟩]

/-- The two calls have noted progress in one order and reached the store in the other. -/
def crossed : Overlap Cursor MemoryStore where
  session := ((Session.new {} 0).advance crossedPlace 4).advance crossedPlace 9
  store := (MemoryStore.commit {} .epoch ⟨"default", "orders"⟩ 0 10).commit .epoch
    ⟨"default", "orders"⟩ 0 5
  waiting := []
  noted := crossedCalls
  landed := [(⟨crossedPlace, 9⟩, 10), (⟨crossedPlace, 4⟩, 5)]

theorem reaches_crossed : ReflTransGen Step (start (.new {} 0) {} crossedCalls) crossed := by
  refine .head (.note (List.nil_append _).symm rfl rfl) ?_
  refine .head (.note (List.nil_append _).symm rfl rfl) ?_
  refine .head (.land .epoch (List.nil_append _).symm rfl) ?_
  exact .head (.land .epoch (List.nil_append _).symm rfl) .refl

/-- Two calls that cross each other: progress is behind the further event, and the store has
what the other call carries, which noted progress first. -/
theorem storedOffset?_eq_next?_iff_crossed :
    crossed.session.next? crossedPlace = some 10 ∧
      ∃ earlier write later, crossedCalls = earlier ++ write :: later ∧
        storedOffset? crossed.store "default" crossedPlace =
          Commitment.furthest? crossedPlace (earlier ++ [write]) ∧
        ¬∀ other ∈ later, other.place = crossedPlace →
          ∃ same ∈ earlier ++ [write], same.place = crossedPlace ∧ other.offset ≤ same.offset := by
  have member : (⟨crossedPlace, 4⟩ : Commitment) ∈ crossedCalls := List.mem_cons_self
  obtain ⟨progress, earlier, write, later, next, noted_eq, -, stored, agree⟩ :=
    storedOffset?_eq_next?_iff (fun _ => rfl) (by decide) reaches_crossed ⟨rfl, rfl⟩ member
  refine ⟨progress, earlier, write, later, noted_eq, stored, fun passed => ?_⟩
  have same : some (5 : Int) = some 10 := agree.mpr passed
  cases same

/-- Calls that overlap can leave less in the store than the progress of their session. -/
theorem overlap_loses_update :
    ¬∀ (calls : List Commitment) (last : Overlap Cursor MemoryStore),
      ReflTransGen Step (start (.new {} 0) {} calls) last → last.HasReturned →
        ∀ call ∈ calls,
          storedOffset? last.store "default" call.place = last.session.next? call.place ∧
            last.session.next? call.place = Commitment.furthest? call.place calls := by
  intro agree
  have same := (agree crossedCalls crossed reaches_crossed ⟨rfl, rfl⟩ ⟨crossedPlace, 4⟩
    List.mem_cons_self).1
  have stored : storedOffset? crossed.store "default" crossedPlace = some 5 := rfl
  have progress : crossed.session.next? crossedPlace = some 10 := rfl
  rw [stored, progress] at same
  cases same

end Crossed

end Overlap

end TopicReplay
