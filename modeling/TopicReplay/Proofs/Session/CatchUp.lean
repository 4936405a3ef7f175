import TopicReplay.Proofs.Except
import TopicReplay.Proofs.Session.Ledger

/-!
# Catching up after failures

A commitment that the store refuses is still noted as progress. What the next one of its
partition stores is progress and not its own offset, so that it makes up for all that were
refused before, even where it is of an older event. `commitment_catches_up` says this of any
store, whichever commitments it refuses and whatever it answers them.
-/

namespace TopicReplay

open Store (OffsetStore LawfulStore Storable)

namespace Store

variable {ρ : Type} [OffsetStore ρ]

/-- A store that may refuse the next commit. -/
structure UnreliableStore (ρ : Type) where
  inner : ρ
  /-- The error of the next commit, if it is refused. -/
  refusal : Option Error := none

namespace UnreliableStore

instance : OffsetStore (UnreliableStore ρ) where
  read store key := OffsetStore.read store.inner key
  commit store stamp key partition offset :=
    match store.refusal with
    | some e => .error e
    | none =>
        (OffsetStore.commit store.inner stamp key partition offset).map fun inner =>
          { store with inner }
  list store filter := OffsetStore.list store.inner filter
  delete store environment topic :=
    let (removed, inner) := OffsetStore.delete store.inner environment topic
    (removed, { store with inner })

variable {store after : UnreliableStore ρ} {stamp : Instant} {key : TopicKey}
  {partition offset : Int} {e : Error}

theorem commit_of_refusal (refuses : store.refusal = some e) :
    OffsetStore.commit store stamp key partition offset = .error e := by
  change (match store.refusal with | some e => _ | none => _) = _
  rw [refuses]

/-- What reaches such a store has reached the one within. -/
theorem exists_inner_commit
    (done : OffsetStore.commit store stamp key partition offset = .ok after) :
    ∃ inner, OffsetStore.commit store.inner stamp key partition offset = .ok inner ∧
      after = { store with inner } := by
  cases refuses : store.refusal with
  | some e =>
      rw [commit_of_refusal refuses] at done
      cases done
  | none =>
      change (match store.refusal with | some e => _ | none => _) = _ at done
      rw [refuses] at done
      obtain ⟨inner, inner_done, after_eq⟩ := map_eq_ok_iff.mp done
      exact ⟨inner, inner_done, after_eq.symm⟩

instance [LawfulStore ρ] : LawfulStore (UnreliableStore ρ) where
  storedOffset?_commit := by
    intro store after stamp environment place next fits done otherEnvironment other
    obtain ⟨inner, inner_done, rfl⟩ := exists_inner_commit done
    exact LawfulStore.storedOffset?_commit fits inner_done otherEnvironment other

end UnreliableStore

end Store

/-- A call that a store may refuse, and the instant at which it would reach the store. -/
structure Attempt where
  stamp : Instant
  call : Commitment
  refusal : Option Store.Error := none

namespace Ledger

open Store (UnreliableStore)

variable {σ ρ : Type} [OffsetStore ρ] {first ledger : Ledger σ (UnreliableStore ρ)}
  {calls : List Commitment}

/-- A ledger whose store is about to refuse a commit, or not to. -/
def facing (ledger : Ledger σ (UnreliableStore ρ)) (refusal : Option Store.Error) :
    Ledger σ (UnreliableStore ρ) :=
  { ledger with store := { ledger.store with refusal } }

/-- One call, which the store may refuse. -/
def attempt (ledger : Ledger σ (UnreliableStore ρ)) (attempt : Attempt) :
    Ledger σ (UnreliableStore ρ) :=
  (ledger.facing attempt.refusal).commit attempt.stamp attempt.call

/-- One call after the other, any of which the store may refuse. -/
def attempts (ledger : Ledger σ (UnreliableStore ρ)) (later : List Attempt) :
    Ledger σ (UnreliableStore ρ) :=
  later.foldl attempt ledger

/-- What a store is about to refuse does not change what is stored. -/
theorem Traced.facing (traced : Traced first calls ledger) (refusal : Option Store.Error) :
    Traced first calls (ledger.facing refusal) where
  settings := traced.settings
  storable := traced.storable
  progress := traced.progress
  untouched := traced.untouched
  behind := traced.behind

/-- Calls keep the trace, whichever of them are refused. -/
theorem Traced.attempts [LawfulStore ρ] {later : List Attempt} (traced : Traced first calls ledger)
    (fits : ∀ attempt ∈ later,
      Storable attempt.call.place.partition (attempt.call.offset + 1)) :
    Traced first (calls ++ later.map (·.call)) (ledger.attempts later) := by
  induction later generalizing ledger calls with
  | nil => rwa [List.map_nil, List.append_nil]
  | cons attempt later ih =>
      have traced_attempt : Traced first (calls ++ [attempt.call]) (ledger.attempt attempt) :=
        (traced.facing attempt.refusal).step (fits attempt List.mem_cons_self)
      have traced_later := ih traced_attempt fun other member =>
        fits other (List.mem_cons_of_mem _ member)
      rwa [List.append_assoc] at traced_later

/-- What a call asks of the store is to keep the furthest progress of its partition. -/
theorem Traced.commit_eq {ledger first : Ledger σ ρ} {call : Commitment} {next : Int}
    (traced : Traced first calls ledger)
    (furthest : Commitment.furthest? call.place (calls ++ [call]) = some next) (stamp : Instant) :
    ledger.session.commit ledger.store stamp call.place call.offset =
      ((ledger.commit stamp call).session,
        OffsetStore.commit ledger.store stamp
          ⟨first.session.settings.environment, call.place.topic⟩ call.place.partition next) := by
  have noted := (Session.next?_advance traced.progress call call.place).trans furthest
  rw [session_commit, ← traced.settings, Session.commit, Session.persist, noted]
  rfl

/-- After any calls on a fresh session, one more notes the furthest progress of its partition,
and asks the store to keep that. Where the store does, it has caught up with all that it refused
of the partition; where it fails, its error is returned and it stays as it is. No other partition
is affected. -/
theorem commitment_catches_up [LawfulStore ρ] {session : Session σ} {store : UnreliableStore ρ}
    {earlier : List Attempt} {last : Attempt} {before after : Ledger σ (UnreliableStore ρ)}
    (fresh : ∀ place, session.next? place = none)
    (fits : ∀ attempt ∈ earlier ++ [last],
      Storable attempt.call.place.partition (attempt.call.offset + 1))
    (reached : (attempts { session, store } earlier).facing last.refusal = before)
    (committed : before.commit last.stamp last.call = after) :
    ∃ next answer,
      Commitment.furthest? last.call.place ((earlier ++ [last]).map (·.call)) = some next ∧
      before.session.commit before.store last.stamp last.call.place last.call.offset =
        (after.session, answer) ∧
      (∀ place, after.session.next? place =
        if place = last.call.place then some next else before.session.next? place) ∧
      OffsetStore.commit before.store last.stamp
          ⟨session.settings.environment, last.call.place.topic⟩ last.call.place.partition next =
        answer ∧
      (∀ e, last.refusal = some e → answer = .error e) ∧
      (∀ e, answer = .error e → after.store = before.store) ∧
      (∀ stored, answer = .ok stored → after.store = stored ∧
        ∀ environment place, after.offset? environment place =
          if environment = session.settings.environment ∧ place = last.call.place then some next
          else before.offset? environment place) := by
  have fits_earlier : ∀ attempt ∈ earlier,
      Storable attempt.call.place.partition (attempt.call.offset + 1) :=
    fun attempt member => fits attempt (List.mem_append_left _ member)
  have fits_last := fits last (List.mem_append_right _ List.mem_cons_self)
  have traced : Traced { session, store } (earlier.map (·.call)) before :=
    reached ▸ ((traced_start fresh).attempts fits_earlier).facing last.refusal
  have refusal_eq : before.store.refusal = last.refusal := reached ▸ rfl
  obtain ⟨next, furthest⟩ : ∃ next, Commitment.furthest? last.call.place
      (earlier.map (·.call) ++ [last.call]) = some next :=
    ⟨_, Commitment.furthest?_append_self _ _⟩
  have commits := traced.commit_eq furthest last.stamp
  subst committed
  refine ⟨next, _, ?_, commits, fun place => ?_, rfl, fun e refuses => ?_, fun e failed => ?_,
    fun stored done => ?_⟩
  · rw [List.map_append]
    exact furthest
  · rw [session_commit]
    by_cases here : place = last.call.place
    · rw [if_pos here, here, Session.next?_advance traced.progress, furthest]
    · rw [if_neg here, Session.next?_advance_of_ne _ _ here]
  · exact UnreliableStore.commit_of_refusal (refusal_eq.trans refuses)
  · rw [failed] at commits
    rw [Ledger.commit, commits]
  · rw [done] at commits
    have stores : before.Stores last.stamp last.call := ⟨stored, congrArg Prod.snd commits⟩
    obtain ⟨same, same_eq, offset?_eq⟩ := traced.offset?_commit fits_last stores
    cases furthest.symm.trans same_eq
    refine ⟨?_, offset?_eq⟩
    rw [Ledger.commit, commits]

section Outage

open Broker (Cursor)
open Store (MemoryStore)

/-- Of three calls the second is refused, and the last is of another partition. -/
def outage : List Attempt :=
  [{ stamp := .epoch, call := ⟨⟨"orders", 0⟩, 9⟩ },
    { stamp := .epoch, call := ⟨⟨"orders", 0⟩, 12⟩, refusal := some (.backend "memory" "away") },
    { stamp := .epoch, call := ⟨⟨"orders", 1⟩, 3⟩ }]

/-- A later call, of an older event. -/
def recovery : Attempt where
  stamp := .epoch
  call := ⟨⟨"orders", 0⟩, 4⟩

/-- A fresh session over an empty store. -/
def blank : Ledger Cursor (UnreliableStore MemoryStore) where
  session := .new {} 0
  store := { inner := {} }

/-- The call of the older event stores what is behind the one that was refused, and leaves the
other partition alone. -/
theorem commitment_catches_up_outage :
    (blank.attempts outage).offset? "default" ⟨"orders", 0⟩ = some 10 ∧
      ((blank.attempts outage).attempt recovery).offset? "default" ⟨"orders", 0⟩ = some 13 ∧
      ((blank.attempts outage).attempt recovery).offset? "default" ⟨"orders", 1⟩ = some 4 := by
  have fresh : ∀ place, blank.session.next? place = none := fun _ => rfl
  have fits : ∀ attempt ∈ outage ++ [recovery],
      Storable attempt.call.place.partition (attempt.call.offset + 1) := by decide
  have reached : (attempts { session := blank.session, store := blank.store } outage).facing none =
      (blank.attempts outage).facing recovery.refusal := rfl
  obtain ⟨next, answer, furthest, -, -, asked, -, -, stored⟩ :=
    commitment_catches_up fresh fits reached rfl
  have furthest_eq : Commitment.furthest? ⟨"orders", 0⟩ ((outage ++ [recovery]).map (·.call)) =
      some 13 := by decide
  cases furthest.symm.trans furthest_eq
  obtain ⟨-, offset?_eq⟩ := stored _ asked.symm
  exact ⟨rfl, offset?_eq "default" ⟨"orders", 0⟩, offset?_eq "default" ⟨"orders", 1⟩⟩

end Outage

end Ledger

end TopicReplay
