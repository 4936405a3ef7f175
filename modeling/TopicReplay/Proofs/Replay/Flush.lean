import TopicReplay.Proofs.Broker.Sound
import TopicReplay.Proofs.Replay.Stage

/-!
# Flushing a closed output

A replay whose output was closed by its reader stops without an error, but before it waits
for its session it flushes the output, and an output that cannot be flushed is an error,
whether its reader has closed it or not. So it is the flush alone that tells how the replay
ends. A pipe has to be written to when it is flushed and refuses that, too.

The main statement is `closed_output_ok_iff`.
-/

namespace TopicReplay

open Broker (Client)
open Relation (ReflTransGen)
open Store (OffsetStore)

namespace Replay

variable {ω φ σ : Type} [Writer ω]

/-- Whether a replay takes the events of its session. -/
def isReceiving (replay : Replay ω φ) : Bool :=
  match replay.phase with
  | .receiving => true
  | .awaiting | .done _ => false

omit [Writer ω] in
theorem isReceiving_iff {replay : Replay ω φ} :
    replay.isReceiving = true ↔ replay.phase = .receiving := by
  unfold isReceiving
  cases replay.phase <;> simp

/-- How a replay goes on after its output was flushed: it is over if that failed, and waits for
its session otherwise. -/
def Ends (replay : Replay ω φ) : Option WriteFault → Prop
  | some fault => replay.phase = .done (.error (.io fault.text))
  | none => replay.phase = .awaiting ∨ ∃ summary, replay.phase = .done (.ok summary)

theorem ends_complete (replay : Replay ω φ) (session : Session σ) :
    (replay.complete session).1.Ends (Writer.flush replay.writer).1 := by
  unfold complete
  rcases Writer.flush replay.writer with ⟨fault, writer⟩
  cases fault with
  | none => exact .inl rfl
  | some fault => rfl

omit [Writer ω] in
theorem Ends.not_receiving {replay : Replay ω φ} {fault? : Option WriteFault}
    (ends : replay.Ends fault?) : replay.phase ≠ .receiving := by
  cases fault? with
  | some fault =>
      rw [show replay.phase = .done (.error (.io fault.text)) from ends]
      exact ReplayPhase.noConfusion
  | none =>
      rcases ends with awaiting | ⟨summary, done⟩
      · rw [awaiting]
        exact ReplayPhase.noConfusion
      · rw [done]
        exact ReplayPhase.noConfusion

omit [Writer ω] in
/-- A replay whose output could not be flushed returns the error of the flush. -/
theorem Ends.result?_eq {replay : Replay ω φ} {fault : WriteFault}
    (ends : replay.Ends (some fault)) : replay.result? = some (.error (.io fault.text)) := by
  rw [result?, show replay.phase = .done (.error (.io fault.text)) from ends]

omit [Writer ω] in
/-- A replay whose output was flushed returns no error. -/
theorem Ends.exists_ok {replay : Replay ω φ} {result : Except Command.Error Summary}
    (ends : replay.Ends none) (returned : replay.result? = some result) :
    ∃ summary, result = .ok summary := by
  rcases ends with awaiting | ⟨summary, done⟩
  · rw [result?, awaiting] at returned
    cases returned
  · rw [result?, done] at returned
    exact ⟨summary, (Option.some.inj returned).symm⟩

end Replay

/-- An output that refuses everything from now on, because its reader has closed it. -/
def IsShut {ω : Type} [Writer ω] (writer : ω) : Prop :=
  ∃ shut : ω → Prop, shut writer ∧ ∀ state, shut state →
    (∀ line, ∃ text after, Writer.write state line = (some (.closed text), after) ∧ shut after) ∧
    ∃ text after, Writer.flush state = (some (.closed text), after) ∧ shut after

namespace Stage

variable {β σ ρ ω φ : Type} [Client β σ] [OffsetStore ρ] [Writer ω] [Formatter φ]
  {others : β → β → Prop} {stage after last : Stage β σ ρ ω φ} {writer : ω}

/-- The next line of a replay is refused because the reader has closed the output, of which
`writer` is left. -/
structure MeetsClosed (stage : Stage β σ ρ ω φ) (writer : ω) : Prop where
  phase : stage.replay.phase = .receiving
  refused : ∃ event line text, stage.scene.session.crew.channel.buffer.head? = some event ∧
    Formatter.line stage.replay.format event = .ok line ∧
    Writer.write stage.replay.writer line = (some (.closed text), writer)

omit [Writer ω] [Formatter φ] in
/-- The event that is next to be received stays the next one for as long as it is not. -/
theorem head?_of_turn {scene later : Scene β σ ρ} (turn : Scene.Turn others scene later)
    {event : Event} (next : scene.session.crew.channel.buffer.head? = some event) :
    later.session.crew.channel.buffer.head? = some event := by
  cases turn with
  | work works =>
      rcases Scene.workAt?_eq_some_iff.mp works with ⟨consumer, outcome, -, rfl⟩
      rw [Scene.buffer_work, List.head?_append, next]
      rfl
  | supervise supervised => rwa [supervised.kept.channel]
  | pass | cancel | change => exact next

/-- A replay that meets a closed output flushes it in its next step. -/
theorem MeetsClosed.step (meets : stage.MeetsClosed writer) (step : Step others stage after) :
    after.MeetsClosed writer ∨ after.replay.Ends (Writer.flush writer).1 := by
  rcases meets with ⟨phase, event, line, text, next, prints, refuses⟩
  cases step with
  | beside turn => exact .inl ⟨phase, event, line, text, head?_of_turn turn next, prints, refuses⟩
  | @replay stamp deed replay session store does steps =>
      rcases List.head?_eq_some_iff.mp next with ⟨rest, buffer⟩
      have receives : Replay.receive? stage.scene.session = some (event, _) :=
        Replay.receive?_eq_some_iff.mpr ⟨_, by rw [Channel.pop?, buffer], rfl⟩
      have closes : stage.replay.Move stage.scene.session stage.scene.store stamp _ _ :=
        .closed phase receives prints refuses
      rw [Replay.step?_of_move closes] at steps
      cases steps
      exact .inr (Replay.ends_complete _ _)

/-- Nothing changes how a replay goes on after its output was flushed. -/
theorem ends_of_step {fault? : Option WriteFault} (ends : stage.replay.Ends fault?)
    (step : Step others stage after) : after.replay.Ends fault? := by
  cases step with
  | beside turn => exact ends
  | replay stamp does steps =>
      have moves := Replay.move_of_step? steps
      rw [does] at moves
      cases moves with
      | wrote phase | committed phase | uncommitted phase | unprinted phase | broke phase
      | closed phase | exhausted phase => exact absurd phase ends.not_receiving
      | @finished summary phase drawn =>
          cases fault? with
          | none => exact .inr ⟨summary, rfl⟩
          | some fault => cases phase.symm.trans ends

/-- A replay that meets a closed output has it to meet, or has flushed it. -/
theorem MeetsClosed.run (meets : stage.MeetsClosed writer)
    (runs : ReflTransGen (Step others) stage last) :
    last.MeetsClosed writer ∨ last.replay.Ends (Writer.flush writer).1 := by
  induction runs with
  | refl => exact .inl meets
  | tail _ step ih =>
      rcases ih with still | ends
      · exact still.step step
      · exact .inr (ends_of_step ends step)

/-- When the reader has closed the output of a replay, so that a line is refused, the replay
returns without an error exactly if what is left of the output can be flushed. Otherwise it
returns the error of the flush. That is what becomes of every output that refuses everything
once its reader has closed it. -/
theorem closed_output_ok_iff (meets : stage.MeetsClosed writer)
    (runs : ReflTransGen (Step others) stage last) {result : Except Command.Error Summary}
    (returned : last.replay.result? = some result) :
    ((∃ summary, result = .ok summary) ↔ (Writer.flush writer).1 = none) ∧
      (∀ fault, (Writer.flush writer).1 = some fault → result = .error (.io fault.text)) ∧
      (IsShut writer → ∃ text, (Writer.flush writer).1 = some (.closed text) ∧
        result = .error (.io text)) := by
  have ends : last.replay.Ends (Writer.flush writer).1 := by
    rcases meets.run runs with still | ends
    · rw [Replay.result?, still.phase] at returned
      cases returned
    · exact ends
  have fails {fault : WriteFault} (flushed : (Writer.flush writer).1 = some fault) :
      result = .error (.io fault.text) := by
    rw [flushed] at ends
    exact Option.some.inj (returned.symm.trans ends.result?_eq)
  refine ⟨?_, fun fault => fails, ?_⟩
  · cases flushed : (Writer.flush writer).1 with
    | none =>
        rw [flushed] at ends
        exact iff_of_true (ends.exists_ok returned) rfl
    | some fault =>
        rw [fails flushed]
        simp
  · rintro ⟨shut, here, refuses⟩
    rcases (refuses writer here).2 with ⟨text, after, flushed, -⟩
    have refused : (Writer.flush writer).1 = some (.closed text) := by rw [flushed]
    exact ⟨text, refused, fails refused⟩

section Pipe

open Broker (Cursor LogBroker)
open Store (MemoryStore)

/-- A pipe whose reader goes away after some lines. The first line that it refuses shuts it. -/
structure Pipe where
  room : Nat
  shut : Bool := false
  deriving DecidableEq

namespace Pipe

/-- What a pipe refuses with that nobody reads from. -/
def broken : WriteFault := .closed "Broken pipe (os error 32)"

instance : Writer Pipe where
  write
    | ⟨room + 1, false⟩, _ => (none, ⟨room, false⟩)
    | ⟨room, _⟩, _ => (some broken, ⟨room, true⟩)
  flush pipe := (if pipe.shut then some broken else none, pipe)

theorem isShut (room : Nat) : IsShut (Pipe.mk room true) := by
  refine ⟨fun pipe => pipe.shut = true, rfl, ?_⟩
  rintro ⟨room, _⟩ ⟨⟩
  have refuses (line : String) : Writer.write (Pipe.mk room true) line =
      (some broken, ⟨room, true⟩) := by
    cases room <;> rfl
  exact ⟨fun line => ⟨_, _, refuses line, rfl⟩, _, _, rfl, rfl⟩

end Pipe

/-- A replay of two partitions to their ends into a pipe with room for one line. -/
def intoPipe : Stage LogBroker Cursor MemoryStore Pipe OutputFormat :=
  start {} 0 false (OrderedMap.empty.insert "orders" { common := ⟨.oldest, some .newest⟩ }) 0
    .orders {} .plain true ⟨1, false⟩

/-- The first partition is read, and the first of its lines is written. -/
def pipeSchedule : List Scene.Pick :=
  [.work 0, .work 0, .work 0, .work 0, .work 0, .work 0, .read]

/-- The second line is refused, and the replay is over. -/
theorem exists_shut : ∃ stage last, intoPipe.play? pipeSchedule = some stage ∧
    stage.written.map (·.1.offset) = [0] ∧ stage.MeetsClosed ⟨0, true⟩ ∧
    stage.play? [.read] = some last ∧ last.replay.result?.isSome = true := by
  have facts : (intoPipe.play? pipeSchedule).any (fun stage =>
      stage.written.map (·.1.offset) = [0] ∧ stage.replay.writer = ⟨0, false⟩ ∧
        stage.replay.isReceiving ∧
        stage.scene.session.crew.channel.buffer.head?.isSome ∧
        (stage.play? [.read]).any fun last => last.replay.result?.isSome) = true := by
    decide +kernel
  rw [Option.any_eq_true] at facts
  rcases facts with ⟨stage, played, seen⟩
  simp only [decide_eq_true_eq] at seen
  rcases seen with ⟨written, writer, receiving, waiting, later⟩
  rw [Option.any_eq_true] at later
  rcases later with ⟨last, ends, returned⟩
  rcases Option.isSome_iff_exists.mp waiting with ⟨event, next⟩
  have meets : stage.MeetsClosed ⟨0, true⟩ := by
    refine ⟨Replay.isReceiving_iff.mp receiving, event, _, "Broken pipe (os error 32)", next, rfl,
      ?_⟩
    rw [writer]
    rfl
  exact ⟨stage, last, played, written, meets, ends, returned⟩

/-- The replay of two lines into a pipe with room for one of them returns an error. -/
theorem closed_output_ok_iff_pipe : ∃ stage last text,
    intoPipe.play? pipeSchedule = some stage ∧ stage.play? [.read] = some last ∧
      stage.written.map (·.1.offset) = [0] ∧ last.replay.result? = some (.error (.io text)) := by
  rcases exists_shut with ⟨stage, last, played, written, meets, ends, returned⟩
  rcases Option.isSome_iff_exists.mp returned with ⟨result, result_eq⟩
  rcases (closed_output_ok_iff meets (reaches_of_play? LogBroker.Change ends) result_eq).2.2
    (Pipe.isShut 0) with ⟨text, -, rfl⟩
  exact ⟨stage, last, text, played, ends, written, result_eq⟩

/-- A replay can return an error because the reader has closed its output. -/
theorem exists_error_closed :
    ¬∀ (topics : Session.Topics) (client : LogBroker) (store : MemoryStore) (commits : Bool)
      (writer left : Pipe) (stage last : Stage LogBroker Cursor MemoryStore Pipe OutputFormat),
      ReflTransGen LogBroker.Change {} client →
      ReflTransGen (Step LogBroker.Change)
        (start {} 0 false topics 0 client store .plain commits writer) stage →
      stage.MeetsClosed left → IsShut left →
      ReflTransGen (Step LogBroker.Change) stage last →
      ∀ result, last.replay.result? = some result → ∃ summary, result = .ok summary := by
  intro never
  rcases exists_shut with ⟨stage, last, played, -, meets, ends, returned⟩
  rcases Option.isSome_iff_exists.mp returned with ⟨result, result_eq⟩
  have runs := reaches_of_play? LogBroker.Change ends
  rcases never _ _ _ _ _ _ stage last LogBroker.changes_orders
    (reaches_of_play? LogBroker.Change played) meets (Pipe.isShut 0) runs result result_eq with
    ⟨summary, rfl⟩
  rcases (closed_output_ok_iff meets runs result_eq).2.2 (Pipe.isShut 0) with ⟨text, -, failed⟩
  cases failed

end Pipe

end Stage

end TopicReplay
