import TopicReplay.Broker.Log
import TopicReplay.Proofs.Session.Progress
import TopicReplay.Proofs.Store.Lawful

/-!
# What commitments leave in the store

Progress never falls within a session, but a session begins without progress and does not
look at what earlier ones have stored. The first commitment of a partition that reaches the
store replaces what was left there, even where that is further. From then on what is stored
never falls. `stored_falls_iff` says exactly when it does, and `exists_stored_falls` that it
can.
-/

namespace TopicReplay

open Consumer (storedOffset?)
open Store (OffsetStore LawfulStore Storable)

namespace Session

variable {σ : Type}

/-- Noting one more event leaves progress where it was or puts it further. -/
theorem le_next?_advance {session : Session σ} {place : TopicPartition} {next : Int}
    (noted : session.next? place = some next) (call : Commitment) :
    ∃ further, (session.advance call.place call.offset).next? place = some further ∧
      next ≤ further := by
  by_cases here : place = call.place
  · subst here
    rw [next?_advance_self, noted]
    exact ⟨_, rfl, Int.le_max_left _ _⟩
  · rw [next?_advance_of_ne _ _ here]
    exact ⟨next, noted, Int.le_refl next⟩

end Session

/-- A session that is committed to by one call after the other, and its store. -/
structure Ledger (σ ρ : Type) where
  session : Session σ
  store : ρ
  /-- The calls that have reached the store, in their order. -/
  kept : List Commitment := []

namespace Ledger

variable {σ ρ : Type} [OffsetStore ρ]

/-- One call. A store that refuses it stays as it is. -/
def commit (ledger : Ledger σ ρ) (stamp : Instant) (call : Commitment) : Ledger σ ρ :=
  match ledger.session.commit ledger.store stamp call.place call.offset with
  | (session, .ok store) => { session, store, kept := ledger.kept ++ [call] }
  | (session, .error _) => { ledger with session }

/-- Calls with the instants at which they reach the store. -/
def run (ledger : Ledger σ ρ) (calls : List (Instant × Commitment)) : Ledger σ ρ :=
  calls.foldl (fun ledger call => ledger.commit call.1 call.2) ledger

/-- Whether a call reaches the store. -/
def Stores (ledger : Ledger σ ρ) (stamp : Instant) (call : Commitment) : Prop :=
  ∃ store, (ledger.session.commit ledger.store stamp call.place call.offset).2 = .ok store

/-- What is stored of a partition. -/
def offset? (ledger : Ledger σ ρ) (environment : String) (place : TopicPartition) : Option Int :=
  storedOffset? ledger.store environment place

/-- Whether less is stored of a partition than there was before, or nothing any more. -/
def FallsAt (before after : Ledger σ ρ) (environment : String) (place : TopicPartition) : Prop :=
  ∃ old, before.offset? environment place = some old ∧
    ∀ new, after.offset? environment place = some new → new < old

variable {first ledger : Ledger σ ρ} {calls : List Commitment} {stamp : Instant}
  {call : Commitment}

theorem commit_of_stores (stores : ledger.Stores stamp call) :
    ∃ store, ledger.commit stamp call =
        { session := ledger.session.advance call.place call.offset, store,
          kept := ledger.kept ++ [call] } ∧
      OffsetStore.commit ledger.store stamp
          ⟨ledger.session.settings.environment, call.place.topic⟩ call.place.partition
          (((ledger.session.advance call.place call.offset).next? call.place).getD
            (call.offset + 1)) =
        .ok store := by
  rcases stores with ⟨store, stores⟩
  refine ⟨store, ?_, stores⟩
  have commits : ledger.session.commit ledger.store stamp call.place call.offset =
      (ledger.session.advance call.place call.offset, .ok store) :=
    Prod.ext rfl stores
  rw [commit, commits]

theorem commit_of_not_stores (refused : ¬ledger.Stores stamp call) :
    ledger.commit stamp call =
      { ledger with session := ledger.session.advance call.place call.offset } := by
  rw [commit]
  split
  next session store commits => exact absurd ⟨store, congrArg Prod.snd commits⟩ refused
  next session error commits =>
      cases (congrArg Prod.fst commits : ledger.session.advance call.place call.offset = session)
      rfl

/-- Every call notes progress, whether it reaches the store or not. -/
@[simp]
theorem session_commit (ledger : Ledger σ ρ) (stamp : Instant) (call : Commitment) :
    (ledger.commit stamp call).session = ledger.session.advance call.place call.offset := by
  by_cases stores : ledger.Stores stamp call
  · obtain ⟨store, commit_eq, -⟩ := commit_of_stores stores
    rw [commit_eq]
  · rw [commit_of_not_stores stores]

theorem not_fallsAt_of_eq {before after : Ledger σ ρ} {environment : String}
    {place : TopicPartition}
    (same : after.offset? environment place = before.offset? environment place) :
    ¬FallsAt before after environment place := by
  rintro ⟨old, old_eq, fell⟩
  exact Int.lt_irrefl old (fell old (same.trans old_eq))

/-- What is true after some calls on a ledger whose session was fresh. -/
structure Traced (first : Ledger σ ρ) (calls : List Commitment) (ledger : Ledger σ ρ) : Prop where
  settings : ledger.session.settings = first.session.settings
  storable : ∀ call ∈ calls, Storable call.place.partition (call.offset + 1)
  progress : ∀ place, ledger.session.next? place = Commitment.furthest? place calls
  /-- What no call has reached is as it was left. -/
  untouched : ∀ environment place,
    (environment = first.session.settings.environment → ∀ call ∈ ledger.kept, call.place ≠ place) →
      ledger.offset? environment place = first.offset? environment place
  /-- What some call has reached is not beyond the progress of the session. -/
  behind : ∀ call ∈ ledger.kept, ∃ stored next,
    ledger.offset? first.session.settings.environment call.place = some stored ∧
      ledger.session.next? call.place = some next ∧ stored ≤ next

theorem traced_start {session : Session σ} {store : ρ}
    (fresh : ∀ place, session.next? place = none) :
    Traced { session, store } [] { session, store } where
  settings := rfl
  storable _ member := absurd member List.not_mem_nil
  progress := fresh
  untouched _ _ _ := rfl
  behind _ member := absurd member List.not_mem_nil

theorem Traced.storable_append (traced : Traced first calls ledger)
    (fits : Storable call.place.partition (call.offset + 1)) :
    ∀ other ∈ calls ++ [call], Storable other.place.partition (other.offset + 1) :=
  List.forall_mem_append.mpr ⟨traced.storable, List.forall_mem_singleton.mpr fits⟩

/-- Where some call has reached the store, no later one falls behind it. -/
theorem Traced.le_furthest? (traced : Traced first calls ledger) {place : TopicPartition}
    {other : Commitment} (member : other ∈ ledger.kept) (same : other.place = place)
    {old next : Int}
    (old_eq : ledger.offset? first.session.settings.environment place = some old)
    (furthest : Commitment.furthest? place (calls ++ [call]) = some next) : old ≤ next := by
  subst same
  obtain ⟨stored, noted, stored_eq, noted_eq, le⟩ := traced.behind other member
  obtain ⟨further, further_eq, le_further⟩ := Session.le_next?_advance noted_eq call
  rw [Session.next?_advance traced.progress, furthest] at further_eq
  cases stored_eq.symm.trans old_eq
  cases further_eq
  exact Int.le_trans le le_further

section Lawful

variable [LawfulStore ρ]

/-- A call that reaches the store leaves the furthest progress of its partition there, and
what is stored of others as it was. -/
theorem Traced.offset?_commit (traced : Traced first calls ledger)
    (fits : Storable call.place.partition (call.offset + 1)) (stores : ledger.Stores stamp call) :
    ∃ next, Commitment.furthest? call.place (calls ++ [call]) = some next ∧
      ∀ environment place, (ledger.commit stamp call).offset? environment place =
        if environment = first.session.settings.environment ∧ place = call.place then some next
        else ledger.offset? environment place := by
  obtain ⟨next, furthest⟩ : ∃ next,
      Commitment.furthest? call.place (calls ++ [call]) = some next :=
    ⟨_, Commitment.furthest?_append_self calls call⟩
  refine ⟨next, furthest, fun environment place => ?_⟩
  have noted := (Session.next?_advance traced.progress call call.place).trans furthest
  obtain ⟨store, commit_eq, persists⟩ := commit_of_stores stores
  rw [noted, Option.getD_some] at persists
  have storable : Storable call.place.partition next :=
    Commitment.storable_furthest? (traced.storable_append fits) furthest
  rw [commit_eq, ← traced.settings]
  exact LawfulStore.storedOffset?_commit storable persists environment place

/-- One more call keeps the trace. -/
theorem Traced.step (traced : Traced first calls ledger)
    (fits : Storable call.place.partition (call.offset + 1)) :
    Traced first (calls ++ [call]) (ledger.commit stamp call) := by
  have progress := Session.next?_advance traced.progress call
  rw [← session_commit ledger stamp call] at progress
  constructor
  · rw [session_commit]
    exact traced.settings
  · exact traced.storable_append fits
  · exact progress
  · intro environment place apart
    by_cases stores : ledger.Stores stamp call
    · obtain ⟨next, -, offset?_eq⟩ := traced.offset?_commit fits stores
      obtain ⟨store, commit_eq, -⟩ := commit_of_stores stores
      rw [commit_eq] at apart
      rw [offset?_eq, if_neg]
      · exact traced.untouched environment place fun same other member =>
          apart same other (List.mem_append_left _ member)
      · rintro ⟨same, rfl⟩
        exact apart same call (List.mem_append_right _ List.mem_cons_self) rfl
    · rw [commit_of_not_stores stores] at apart ⊢
      exact traced.untouched environment place apart
  · intro other member
    by_cases stores : ledger.Stores stamp call
    · obtain ⟨next, furthest, offset?_eq⟩ := traced.offset?_commit fits stores
      rw [offset?_eq]
      by_cases here : other.place = call.place
      · rw [if_pos ⟨rfl, here⟩, progress, here]
        exact ⟨next, next, rfl, furthest, Int.le_refl next⟩
      · rw [if_neg fun both => here both.2, session_commit, Session.next?_advance_of_ne _ _ here]
        obtain ⟨store, commit_eq, -⟩ := commit_of_stores stores
        rw [commit_eq] at member
        rcases List.mem_append.mp member with early | last
        · exact traced.behind other early
        · exact absurd (congrArg _ (List.mem_singleton.mp last)) here
    · -- a call that is refused still notes progress, which can only get further ahead
      rw [commit_of_not_stores stores] at member ⊢
      obtain ⟨stored, next, stored_eq, noted, le⟩ := traced.behind other member
      obtain ⟨further, noted_after, le_further⟩ := Session.le_next?_advance noted call
      exact ⟨stored, further, stored_eq, noted_after, Int.le_trans le le_further⟩

/-- Calls that are all committed keep the trace. -/
theorem Traced.run {later : List (Instant × Commitment)} (traced : Traced first calls ledger)
    (fits : ∀ call ∈ later.map (·.2), Storable call.place.partition (call.offset + 1)) :
    Traced first (calls ++ later.map (·.2)) (ledger.run later) := by
  induction later generalizing ledger calls with
  | nil => rwa [List.map_nil, List.append_nil]
  | cons call later ih =>
      have traced_call : Traced first (calls ++ [call.2]) (ledger.commit call.1 call.2) :=
        traced.step (fits call.2 List.mem_cons_self)
      have traced_later := ih traced_call fun other member =>
        fits other (List.mem_cons_of_mem _ member)
      rwa [List.append_assoc] at traced_later

/-- When calls were committed to a fresh session, one more makes what is stored of a
partition fall exactly when it is the first of that partition to reach the store, and the
furthest offset of all calls so far is short of what was left there. -/
theorem stored_falls_iff {session : Session σ} {store : ρ} {earlier : List (Instant × Commitment)}
    (fresh : ∀ place, session.next? place = none)
    (fits : ∀ other ∈ earlier.map (·.2) ++ [call],
      Storable other.place.partition (other.offset + 1))
    (environment : String) (place : TopicPartition) :
    FallsAt (run { session, store } earlier) ((run { session, store } earlier).commit stamp call)
        environment place ↔
      environment = session.settings.environment ∧ place = call.place ∧
        (run { session, store } earlier).Stores stamp call ∧
        (∀ other ∈ (run { session, store } earlier).kept, other.place ≠ place) ∧
        ∃ left next, storedOffset? store environment place = some left ∧
          Commitment.furthest? place (earlier.map (·.2) ++ [call]) = some next ∧ next < left := by
  have traced : Traced { session, store } (earlier.map (·.2)) (run { session, store } earlier) :=
    (traced_start fresh).run fun other member => fits other (List.mem_append_left _ member)
  have fits_call := fits call (List.mem_append_right _ List.mem_cons_self)
  -- from here on only the trace matters, not how the earlier calls came about
  generalize run { session, store } earlier = before at traced ⊢
  by_cases stores : before.Stores stamp call
  · obtain ⟨next, furthest, offset?_eq⟩ := traced.offset?_commit fits_call stores
    by_cases here : environment = session.settings.environment ∧ place = call.place
    · have after_eq := (offset?_eq environment place).trans (if_pos here)
      rcases here with ⟨rfl, rfl⟩
      constructor
      · rintro ⟨old, old_eq, fell⟩
        have lt := fell next after_eq
        have first_there : ∀ other ∈ before.kept, other.place ≠ call.place :=
          fun other member same =>
            Int.not_lt.mpr (traced.le_furthest? member same old_eq furthest) lt
        have left_eq := (traced.untouched _ _ fun _ => first_there).symm.trans old_eq
        exact ⟨rfl, rfl, stores, first_there, old, next, left_eq, furthest, lt⟩
      · rintro ⟨-, -, -, first_there, left, other, left_eq, other_eq, lt⟩
        cases furthest.symm.trans other_eq
        have old_eq := (traced.untouched _ _ fun _ => first_there).trans left_eq
        refine ⟨left, old_eq, fun new new_eq => ?_⟩
        cases after_eq.symm.trans new_eq
        exact lt
    · have after_eq := (offset?_eq environment place).trans (if_neg here)
      exact ⟨fun falls => absurd falls (not_fallsAt_of_eq after_eq),
        fun all => absurd ⟨all.1, all.2.1⟩ here⟩
  · have after_eq : (before.commit stamp call).offset? environment place =
        before.offset? environment place := by
      rw [commit_of_not_stores stores]
      rfl
    exact ⟨fun falls => absurd falls (not_fallsAt_of_eq after_eq),
      fun all => absurd all.2.2.1 stores⟩

end Lawful

section Left

open Broker (Cursor)
open Store (MemoryStore)

/-- A partition of which an earlier session has stored 100. -/
def leftPlace : TopicPartition := ⟨"orders", 0⟩

/-- A fresh session over what the earlier one has left. -/
def left : Ledger Cursor MemoryStore where
  session := .new {} 0
  store := MemoryStore.commit {} .epoch ⟨"default", "orders"⟩ 0 100

/-- The first commitment of the partition makes 5 of the 100. One that is older still leaves
the 5 there. -/
theorem stored_falls_iff_left :
    FallsAt left (left.commit .epoch ⟨leftPlace, 4⟩) "default" leftPlace ∧
      ¬FallsAt (left.commit .epoch ⟨leftPlace, 4⟩)
        ((left.commit .epoch ⟨leftPlace, 4⟩).commit .epoch ⟨leftPlace, 2⟩) "default" leftPlace := by
  have fresh : ∀ place, left.session.next? place = none := fun _ => rfl
  constructor
  · have falls_iff : FallsAt (left.run []) ((left.run []).commit .epoch ⟨leftPlace, 4⟩) "default"
        leftPlace ↔ _ :=
      stored_falls_iff fresh (by decide) "default" leftPlace
    apply falls_iff.mpr
    refine ⟨rfl, rfl, ⟨_, rfl⟩, ?_, 100, 5, rfl, rfl, by decide⟩
    exact fun other member => absurd member List.not_mem_nil
  · have falls_iff : FallsAt (left.run [(.epoch, ⟨leftPlace, 4⟩)])
        ((left.run [(.epoch, ⟨leftPlace, 4⟩)]).commit .epoch ⟨leftPlace, 2⟩) "default"
        leftPlace ↔ _ :=
      stored_falls_iff fresh (by decide) "default" leftPlace
    intro falls
    obtain ⟨-, -, -, first_there, -⟩ := falls_iff.mp falls
    exact first_there ⟨leftPlace, 4⟩ List.mem_cons_self rfl

/-- A commitment to a fresh session can make what is stored fall. -/
theorem exists_stored_falls :
    ¬∀ (store : MemoryStore) (calls : List (Instant × Commitment)) (stamp : Instant)
      (call : Commitment) (environment : String) (place : TopicPartition) (old : Int),
      (run { session := (.new {} 0 : Session Cursor), store } calls).offset? environment place =
        some old →
      ∃ new, ((run { session := (.new {} 0 : Session Cursor), store } calls).commit stamp
          call).offset? environment place = some new ∧ old ≤ new := by
  intro keeps
  obtain ⟨new, new_eq, le⟩ := keeps left.store [] .epoch ⟨leftPlace, 4⟩ "default" leftPlace 100 rfl
  have stored : (left.commit .epoch ⟨leftPlace, 4⟩).offset? "default" leftPlace = some 5 := rfl
  cases stored.symm.trans new_eq
  exact absurd le (by decide)

end Left

end Ledger

end TopicReplay
