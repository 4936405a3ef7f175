import TopicReplay.Proofs.Replay.Move
import TopicReplay.Proofs.Session.Conserved
import TopicReplay.Proofs.Session.InOrder
import TopicReplay.Proofs.Session.Summary

/-!
# Replays on stage

A stage is a replay together with the scene of its session, and with a record of what the
replay has written and committed. Between two steps of the replay everything else can go
on in any order, and writing and storing may fail at any time. To the session the replay is
one reader among those that a scene allows.
-/

namespace TopicReplay

open Broker (Client OrderedClient)
open Relation (ReflTransGen)
open Store (OffsetStore)

/-- A replay and everything around it. -/
structure Stage (β σ ρ ω φ : Type) where
  scene : Scene β σ ρ
  replay : Replay ω φ
  /-- The events whose lines were written, with their lines, in order. -/
  written : List (Event × String) := []
  /-- The events that were received and whose lines were not written. -/
  refused : List Event := []
  /-- The events that were committed, and whether that succeeded, in order. -/
  commits : List (Event × Bool) := []

namespace Stage

variable {β σ ρ ω φ : Type} [Client β σ] [OffsetStore ρ] [Writer ω] [Formatter φ]

section Start

omit [OffsetStore ρ] [Writer ω] [Formatter φ]

/-- Starts a new session to replay it. A session that cannot be started ends the replay. -/
def start (settings : Settings) (born : Nat) (cancelled : Bool) (topics : Session.Topics)
    (now : Nat) (client : β) (store : ρ) (format : φ) (commits : Bool) (writer : ω) :
    Stage β σ ρ ω φ :=
  match Scene.start settings born cancelled topics now client store with
  | (.ok (), scene) => { scene, replay := { format, commits, writer } }
  | (.error e, scene) =>
      { scene, replay := { format, commits, writer, phase := .done (.error (.run e)) } }

end Start

/-- What can happen on a stage, when `others` may change the broker. -/
inductive Step (others : β → β → Prop) (stage : Stage β σ ρ ω φ) : Stage β σ ρ ω φ → Prop where
  | beside {scene : Scene β σ ρ} (turn : Scene.Turn others stage.scene scene) :
      Step others stage { stage with scene }
  | replay (stamp : Instant) {deed : Replay.Deed} {replay : Replay ω φ} {session : Session σ}
      {store : ρ}
      (does : stage.replay.deed stage.scene.session stage.scene.store stamp = deed)
      (steps : stage.replay.step? stage.scene.session stage.scene.store stamp =
        some (replay, session, store)) :
      Step others stage {
        scene := { stage.scene with
          session
          store
          received := stage.scene.received ++ deed.received
          committed := stage.scene.committed ++ deed.commits.map (·.1) }
        replay
        written := stage.written ++ deed.written
        refused := stage.refused ++ deed.refused
        commits := stage.commits ++ deed.commits }

variable {others : β → β → Prop} {stage after : Stage β σ ρ ω φ} {scene : Scene β σ ρ}

omit [Client β σ] [OffsetStore ρ] in
theorem receive?_of_receive? {event : Event} {rest : Session σ}
    (receives : Replay.receive? scene.session = some (event, rest)) :
    scene.receive? =
      some { scene with session := rest, received := scene.received ++ [event] } := by
  rw [Scene.receive?, receives]
  rfl

/-- What a replay does is what a reader may do to a session. -/
theorem steps_of_move {replay next : Replay ω φ} {session : Session σ} {store : ρ}
    {stamp : Instant} {deed : Replay.Deed}
    (moves : replay.Move scene.session scene.store stamp deed (next, session, store)) :
    ReflTransGen (Scene.Step others) scene
      { scene with
        session
        store
        received := scene.received ++ deed.received
        committed := scene.committed ++ deed.commits.map (·.1) } := by
  cases moves with
  | wrote phase receives prints writes quiet =>
      rw [List.map_nil, List.append_nil]
      exact .single (.receive (receive?_of_receive? receives))
  | @committed event rest after line writer stored phase receives prints writes asked commits =>
      refine .tail (.single (.receive (receive?_of_receive? receives))) ?_
      have step : Scene.Step others
          { scene with session := rest, received := scene.received ++ [event] } _ :=
        .commit stamp (List.mem_append_right _ List.mem_cons_self)
      rwa [Scene.commit, commits] at step
  | @uncommitted event rest after line writer e phase receives prints writes asked commits =>
      refine .tail (.single (.receive (receive?_of_receive? receives))) ?_
      have step : Scene.Step others
          { scene with session := rest, received := scene.received ++ [event] } _ :=
        .commit stamp (List.mem_append_right _ List.mem_cons_self)
      rwa [Scene.commit, commits] at step
  | unprinted phase receives unprintable =>
      rw [List.map_nil, List.append_nil]
      exact .tail (.single (.receive (receive?_of_receive? receives))) .hangUp
  | broke phase receives prints breaks =>
      rw [List.map_nil, List.append_nil]
      exact .tail (.single (.receive (receive?_of_receive? receives))) .hangUp
  | closed phase receives prints closes =>
      rw [List.map_nil, List.append_nil, Replay.session_complete]
      exact .tail (.single (.receive (receive?_of_receive? receives))) .hangUp
  | exhausted phase none dry =>
      rw [Replay.session_complete, List.map_nil, List.append_nil, List.append_nil]
      exact .single .hangUp
  | finished phase drawn =>
      rw [List.map_nil, List.append_nil, List.append_nil]

/-- What was committed stays so. -/
theorem Step.committed_prefix (step : Step others stage after) :
    stage.scene.committed <+: after.scene.committed := by
  cases step with
  | beside turn => exact ⟨[], by rw [List.append_nil, turn.unread.committed]⟩
  | replay stamp does steps => exact List.prefix_append _ _

/-- What happens on a stage is what can happen in its scene. -/
theorem Step.reaches_scene (step : Step others stage after) :
    ReflTransGen (Scene.Step others) stage.scene after.scene := by
  cases step with
  | beside turn => exact .single (.turn turn)
  | replay stamp does steps =>
      have moves := Replay.move_of_step? steps
      rw [does] at moves
      exact steps_of_move moves

theorem reaches_scene (runs : ReflTransGen (Step others) stage after) :
    ReflTransGen (Scene.Step others) stage.scene after.scene := by
  induction runs with
  | refl => exact .refl
  | tail _ step ih => exact ih.trans step.reaches_scene

/-- The stage after a step of the replay. -/
def step? (stage : Stage β σ ρ ω φ) (stamp : Instant) : Option (Stage β σ ρ ω φ) :=
  let deed := stage.replay.deed stage.scene.session stage.scene.store stamp
  (stage.replay.step? stage.scene.session stage.scene.store stamp).map
    fun (replay, session, store) => {
      scene := { stage.scene with
        session
        store
        received := stage.scene.received ++ deed.received
        committed := stage.scene.committed ++ deed.commits.map (·.1) }
      replay
      written := stage.written ++ deed.written
      refused := stage.refused ++ deed.refused
      commits := stage.commits ++ deed.commits }

/-- The stage at the end of a schedule in which the replay is the reader. -/
def play? (stage : Stage β σ ρ ω φ) : List Scene.Pick → Option (Stage β σ ρ ω φ)
  | [] => some stage
  | .read :: rest => (stage.step? .epoch).bind fun after => after.play? rest
  | pick :: rest => (stage.scene.turn? pick).bind fun scene => { stage with scene }.play? rest

variable (others)

theorem step_of_step? {stamp : Instant} (stepped : stage.step? stamp = some after) :
    Step others stage after := by
  rcases Option.map_eq_some_iff.mp stepped with ⟨⟨replay, session, store⟩, steps, rfl⟩
  exact .replay stamp rfl steps

/-- A schedule that can be played is one of the orders in which steps can be taken. -/
theorem reaches_of_play? {picks : List Scene.Pick} (played : stage.play? picks = some after) :
    ReflTransGen (Step others) stage after := by
  induction picks generalizing stage with
  | nil =>
      cases played
      exact .refl
  | cons pick rest ih =>
      cases pick with
      | read =>
          rcases Option.bind_eq_some_iff.mp played with ⟨next, stepped, later⟩
          exact .head (step_of_step? others stepped) (ih later)
      | work index =>
          rcases Option.bind_eq_some_iff.mp played with ⟨next, turned, later⟩
          exact .head (.beside (Scene.turn_of_turn? others turned)) (ih later)
      | supervise =>
          rcases Option.bind_eq_some_iff.mp played with ⟨next, turned, later⟩
          exact .head (.beside (Scene.turn_of_turn? others turned)) (ih later)
      | pass now =>
          rcases Option.bind_eq_some_iff.mp played with ⟨next, turned, later⟩
          exact .head (.beside (Scene.turn_of_turn? others turned)) (ih later)

end Stage

end TopicReplay
