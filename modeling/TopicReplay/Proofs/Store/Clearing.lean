import Mathlib.Logic.Relation
import TopicReplay.Proofs.OrderedMap
import TopicReplay.Store.Memory

/-!
# Deleting an environment among other calls

A memory store is deleted from without a lock around the whole. To delete all topics of an
environment a call counts the records, drops those of the environment, counts again, and
returns the difference. Other callers commit and delete single topics in between. What they
add or remove between the two counts goes into the difference as well: the number that is
returned is the number of records that were dropped exactly if the others added as many as
they removed, and there is no number if they added more than were removed in all.

The main statements are `answer_eq_removed_iff` and `clearing_miscounts`.
-/

namespace TopicReplay

namespace OrderedMap

variable {κ ν : Type} [Ord κ] [Std.TransOrd κ]

/-- An insertion adds an entry unless its key had one. -/
theorem size_insert_add [Std.LawfulEqOrd κ] (map : OrderedMap κ ν) (key : κ) (value : ν) :
    (map.insert key value).size + (map.contains key).toNat = map.size + 1 := by
  rcases map with ⟨entries, ascending⟩
  simp only [size, insert, contains, get?]
  induction entries with
  | nil => rfl
  | cons head rest ih =>
      rcases List.pairwise_cons.mp ascending with ⟨above, later⟩
      rw [place]
      split
      case h_1 less =>
        have absent : find key (head :: rest) = none := by
          apply find_eq_none_of_above
          intro entry member
          rcases List.mem_cons.mp member with rfl | inRest
          · exact less
          · exact Std.TransCmp.lt_trans less (above entry inRest)
        rw [absent]
        rfl
      case h_2 same =>
        rw [find, if_pos same]
        rfl
      case h_3 greater =>
        have apart : compare key head.1 ≠ .eq := by
          rw [greater]
          decide
        rw [find, if_neg apart, List.length_cons, List.length_cons, Nat.add_right_comm, ih later]

end OrderedMap

namespace Store

open Relation (ReflTransGen)

namespace MemoryStore

theorem size_commit_add (store : MemoryStore) (stamp : Instant) (key : TopicKey)
    (partition offset : Int) :
    (store.commit stamp key partition offset).size + (store.records.contains key).toNat =
      store.size + 1 :=
  store.records.size_insert_add key _

/-- The records that a deletion counts and those that it leaves are all that there were. -/
theorem size_delete_add (store : MemoryStore) (environment : String) (topic : Option String) :
    (store.delete environment topic).2.size + (store.delete environment topic).1 = store.size :=
  Nat.add_sub_of_le (List.length_filter_le _ store.records.entries)

end MemoryStore

/-- What another caller does to a memory store in one step. -/
inductive Errand where
  | commit (stamp : Instant) (key : TopicKey) (partition offset : Int)
  /-- Deletes one topic. -/
  | delete (key : TopicKey)

namespace Errand

/-- The store that an errand leaves. -/
def apply (store : MemoryStore) : Errand → MemoryStore
  | commit stamp key partition offset => store.commit stamp key partition offset
  | delete key => (store.delete key.environment (some key.topic)).2

/-- How many records an errand adds: one for a topic that had none. -/
def gain (store : MemoryStore) : Errand → Nat
  | commit _ key _ _ => if store.records.contains key then 0 else 1
  | delete _ => 0

/-- How many records an errand removes. -/
def loss (store : MemoryStore) : Errand → Nat
  | commit .. => 0
  | delete key => (store.delete key.environment (some key.topic)).1

theorem size_apply_add (store : MemoryStore) (errand : Errand) :
    (errand.apply store).size + errand.loss store = store.size + errand.gain store := by
  cases errand with
  | commit stamp key partition offset =>
      have sizes := store.size_commit_add stamp key partition offset
      rw [apply, loss, gain]
      cases held : store.records.contains key with
      | false =>
          rw [held] at sizes
          exact sizes
      | true =>
          rw [held] at sizes
          exact Nat.succ.inj sizes
  | delete key => exact store.size_delete_add key.environment (some key.topic)

end Errand

/-- How far a call has come that deletes all topics of an environment. -/
inductive Clearance where
  | waiting
  | counted (before : Nat)
  /-- The records of the environment are gone, so many of them. -/
  | dropped (before removed : Nat)
  | recounted (before removed after : Nat)
  /-- The difference of the two counts, which is missing if it lies below zero. -/
  | returned (removed : Nat) (answer : Option Nat)
  deriving DecidableEq

/-- Whether a call stands between its two counts. -/
def Clearance.isCounting : Clearance → Bool
  | waiting | recounted .. | returned .. => false
  | counted _ | dropped .. => true

/-- The difference of two counts. -/
def difference? (before after : Nat) : Option Nat :=
  if after ≤ before then some (before - after) else none

/-- A memory store while an environment is deleted from it. -/
structure Clearing where
  store : MemoryStore
  phase : Clearance := .waiting
  /-- How many records others have added between the two counts. -/
  gained : Nat := 0
  /-- How many records others have removed between the two counts. -/
  lost : Nat := 0

namespace Clearing

/-- One step of the call that deletes an environment, or of another caller. -/
inductive Step (environment : String) (clearing : Clearing) : Clearing → Prop where
  | count (waits : clearing.phase = .waiting) :
      Step environment clearing { clearing with phase := .counted clearing.store.size }
  | drop {before : Nat} (counted : clearing.phase = .counted before) :
      Step environment clearing { clearing with
        store := (clearing.store.delete environment none).2
        phase := .dropped before (clearing.store.delete environment none).1 }
  | recount {before removed : Nat} (dropped : clearing.phase = .dropped before removed) :
      Step environment clearing { clearing with
        phase := .recounted before removed clearing.store.size }
  | subtract {before removed after : Nat}
      (recounted : clearing.phase = .recounted before removed after) :
      Step environment clearing { clearing with
        phase := .returned removed (difference? before after) }
  | meanwhile (errand : Errand) (counting : clearing.phase.isCounting = true) :
      Step environment clearing { clearing with
        store := errand.apply clearing.store
        gained := clearing.gained + errand.gain clearing.store
        lost := clearing.lost + errand.loss clearing.store }
  | aside (errand : Errand) (idle : clearing.phase.isCounting = false) :
      Step environment clearing { clearing with store := errand.apply clearing.store }

/-- What is true of the counts, however far the call has come: nothing that was added or
removed since the first count is left out. -/
def Balanced (clearing : Clearing) : Prop :=
  match clearing.phase with
  | .waiting => clearing.gained = 0 ∧ clearing.lost = 0
  | .counted before => clearing.store.size + clearing.lost = before + clearing.gained
  | .dropped before removed =>
      clearing.store.size + clearing.lost + removed = before + clearing.gained
  | .recounted before removed after => after + clearing.lost + removed = before + clearing.gained
  | .returned removed answer =>
      match answer with
      | some n => n + clearing.gained = removed + clearing.lost
      | none => removed + clearing.lost < clearing.gained

theorem balanced_start (store : MemoryStore) : Balanced { store } := ⟨rfl, rfl⟩

variable {environment : String} {clearing after : Clearing}

/-- Every step keeps the balance. -/
theorem Balanced.step (balanced : clearing.Balanced) (step : Step environment clearing after) :
    after.Balanced := by
  cases step with
  | count waits =>
      simp only [Balanced, waits] at balanced
      simp only [Balanced]
      omega
  | @drop before counted =>
      have sizes := clearing.store.size_delete_add environment none
      simp only [Balanced, counted] at balanced
      simp only [Balanced]
      omega
  | recount dropped =>
      simp only [Balanced, dropped] at balanced
      exact balanced
  | @subtract before removed recount recounted =>
      simp only [Balanced, recounted] at balanced
      simp only [Balanced, difference?]
      split
      case h_1 answer some_eq =>
        split at some_eq
        · cases some_eq
          omega
        · cases some_eq
      case h_2 none_eq =>
        split at none_eq
        · cases none_eq
        · omega
  | meanwhile errand counting =>
      have sizes := errand.size_apply_add clearing.store
      cases phase : clearing.phase with
      | waiting | recounted | returned =>
          rw [phase] at counting
          cases counting
      | counted | dropped =>
          simp only [Balanced, phase] at balanced ⊢
          omega
  | aside errand idle =>
      cases phase : clearing.phase with
      | counted | dropped =>
          rw [phase] at idle
          cases idle
      | waiting | recounted | returned =>
          simp only [Balanced, phase] at balanced ⊢
          exact balanced

theorem Balanced.run (balanced : clearing.Balanced)
    (runs : ReflTransGen (Step environment) clearing after) : after.Balanced := by
  induction runs with
  | refl => exact balanced
  | tail _ step ih => exact ih.step step

/-- A call that no other caller interrupts does what a deletion in one step does. -/
theorem reaches_delete (environment : String) (store : MemoryStore) :
    ReflTransGen (Step environment) { store } {
      store := (store.delete environment none).2
      phase := .returned (store.delete environment none).1
        (some (store.delete environment none).1) } := by
  have sizes := store.size_delete_add environment none
  have answer : difference? store.size (store.delete environment none).2.size =
      some (store.delete environment none).1 := by
    rw [difference?, if_pos (by omega), ← sizes, Nat.add_sub_cancel_left]
  rw [← answer]
  refine .head (.count rfl) (.head (.drop rfl) (.head (.recount rfl) ?_))
  exact .single (.subtract rfl)

/-- What a call returns that deletes all topics of an environment, whatever others do in
between. It is the number of the records that were dropped exactly if the others have added
as many as they have removed between the two counts, and otherwise it is too small or too
great by the difference. It has nothing to return if more records were added than removed. -/
theorem answer_eq_removed_iff {store : MemoryStore} {last : Clearing} {removed : Nat}
    {answer : Option Nat} (runs : ReflTransGen (Step environment) { store } last)
    (returned : last.phase = .returned removed answer) :
    (answer = some removed ↔ last.gained = last.lost) ∧
      (∀ n, answer = some n → n + last.gained = removed + last.lost) ∧
      (answer = none ↔ removed + last.lost < last.gained) := by
  have balanced := (balanced_start store).run runs
  simp only [Balanced, returned] at balanced
  cases answer with
  | none =>
      have below : removed + last.lost < last.gained := balanced
      refine ⟨⟨fun same => ?_, fun same => ?_⟩, fun n same => ?_, fun _ => below, fun _ => rfl⟩
      · cases same
      · omega
      · cases same
  | some n =>
      have even : n + last.gained = removed + last.lost := balanced
      refine ⟨?_, fun m same => ?_, fun same => ?_, fun below => ?_⟩
      · rw [Option.some.injEq]
        omega
      · rwa [← Option.some.inj same]
      · cases same
      · omega

section Disturbed

/-- A store with one topic of the environment that is deleted. -/
def disturbedStore : MemoryStore := MemoryStore.commit {} .epoch ⟨"dev", "orders"⟩ 0 1

/-- A commit to a topic of another environment, of which nothing was stored. -/
def disturbance : Errand := .commit .epoch ⟨"prod", "orders"⟩ 0 1

/-- Another caller commits between the two counts. -/
theorem reaches_disturbed (store : MemoryStore) :
    ReflTransGen (Step "dev") { store } {
      store := disturbance.apply (store.delete "dev" none).2
      phase := .returned (store.delete "dev" none).1
        (difference? store.size (disturbance.apply (store.delete "dev" none).2).size)
      gained := 0 + disturbance.gain (store.delete "dev" none).2
      lost := 0 + disturbance.loss (store.delete "dev" none).2 } := by
  refine .head (.count rfl) (.head (.drop rfl) (.head (.meanwhile disturbance rfl) ?_))
  exact .head (.recount rfl) (.single (.subtract rfl))

/-- One record was dropped and another one added: the call returns zero. -/
theorem answer_eq_removed_iff_disturbed :
    ∃ last : Clearing, ReflTransGen (Step "dev") { store := disturbedStore } last ∧
      last.phase = .returned 1 (some 0) ∧
      ((some 0 = some 1) ↔ last.gained = last.lost) ∧ 0 + last.gained = 1 + last.lost := by
  have runs := reaches_disturbed disturbedStore
  rcases answer_eq_removed_iff runs rfl with ⟨exact_iff, balance, -⟩
  exact ⟨_, runs, rfl, exact_iff, balance 0 rfl⟩

/-- A deletion may return another number than that of the records that it dropped, and the
difference of its counts may lie below zero. -/
theorem clearing_miscounts :
    ¬∀ (environment : String) (store : MemoryStore) (last : Clearing) (removed : Nat)
      (answer : Option Nat), ReflTransGen (Step environment) { store } last →
        last.phase = .returned removed answer → answer = some removed := by
  intro exact
  have below := exact "dev" {} _ _ _ (reaches_disturbed {}) rfl
  cases below

end Disturbed

end Clearing

end Store

end TopicReplay
