import TopicReplay.Command.Error
import TopicReplay.Event.Line
import TopicReplay.Session.Commit

/-!
# Replaying

A replay writes the events of a session, one line each, in the order in which they
are received. After a line was written its event is committed, and a commit that
fails does not stop the replay. An output that its reader has closed ends the
replay without an error, while an event that cannot be printed and any other failure
to write are one.
-/

namespace TopicReplay

open Store (OffsetStore)

/-- Why a line was not written. -/
inductive WriteFault where
  /-- The reader of the output has closed it. -/
  | closed (text : String)
  | other (text : String)
  deriving DecidableEq, Repr

/-- The text of a failure to write. -/
def WriteFault.text : WriteFault → String
  | .closed text | .other text => text

/-- An output of type `ω` that lines are written to. A failure may leave part of the
line written. -/
class Writer (ω : Type) where
  write : ω → String → Option WriteFault × ω
  flush : ω → Option WriteFault × ω

/-- A way of type `φ` to print events. -/
class Formatter (φ : Type) where
  line : φ → Event → Except Command.Error String

instance : Formatter OutputFormat where
  line format event := .ok (event.line format)

/-- An output that keeps its text, and may refuse to go on once it holds so many
lines. -/
structure LineWriter where
  /-- What was written, latest first. -/
  pieces : List String := []
  limit : Option (Nat × WriteFault) := none

namespace LineWriter

/-- How many lines are complete. -/
def lineCount (writer : LineWriter) : Nat :=
  writer.pieces.foldr (fun piece n => piece.toList.count '\n' + n) 0

/-- Writes a piece of text. -/
def writePiece (writer : LineWriter) (piece : String) : Option WriteFault × LineWriter :=
  let written := { writer with pieces := piece :: writer.pieces }
  match writer.limit with
  | some (most, fault) =>
      if most ≤ writer.lineCount then (some fault, writer) else (none, written)
  | none => (none, written)

/-- Writes a line and then its end. -/
def writeLine (writer : LineWriter) (line : String) : Option WriteFault × LineWriter :=
  match writer.writePiece line with
  | (none, writer) => writer.writePiece "\n"
  | failed => failed

/-- All that was written. -/
def text (writer : LineWriter) : String := String.join writer.pieces.reverse

instance : Writer LineWriter where
  write := writeLine
  flush writer := (none, writer)

end LineWriter

/-- How far a replay has come. -/
inductive ReplayPhase where
  | receiving
  /-- The output is complete, and the session has yet to end. -/
  | awaiting
  | done (result : Except Command.Error Summary)

/-- The writing of a session's events. -/
structure Replay (ω : Type) (φ : Type := OutputFormat) where
  format : φ
  /-- Whether written events are committed. -/
  commits : Bool
  writer : ω
  phase : ReplayPhase := .receiving

namespace Replay

variable {ω φ σ ρ : Type} [Writer ω] [Formatter φ] [OffsetStore ρ]

/-- Ends a replay with an error, which takes the receiver away. -/
def fail (replay : Replay ω φ) (session : Session σ) (e : Command.Error) :
    Replay ω φ × Session σ :=
  ({ replay with phase := .done (.error e) }, session.hangUp)

/-- Flushes the output, takes the receiver away and goes on to wait for the session. -/
def complete (replay : Replay ω φ) (session : Session σ) : Replay ω φ × Session σ :=
  match Writer.flush replay.writer with
  | (none, writer) => ({ replay with writer, phase := .awaiting }, session.hangUp)
  | (some fault, writer) => fail { replay with writer } session (.io fault.text)

/-- Commits a written event, if that is wanted. -/
def commit (replay : Replay ω φ) (session : Session σ) (store : ρ) (stamp : Instant)
    (event : Event) : Session σ × ρ :=
  if replay.commits then
    match session.commit store stamp event.place event.offset with
    | (session, .ok store) => (session, store)
    | (session, .error _) => (session, store)
  else (session, store)

/-- Writes the line of a received event. -/
def putLine (replay : Replay ω φ) (session : Session σ) (store : ρ) (stamp : Instant)
    (event : Event) (line : String) : Replay ω φ × Session σ × ρ :=
  let (fault, writer) := Writer.write replay.writer line
  let replay := { replay with writer }
  match fault with
  | none =>
      let (session, store) := replay.commit session store stamp event
      (replay, session, store)
  | some (.closed _) =>
      let (replay, session) := replay.complete session
      (replay, session, store)
  | some (.other text) =>
      let (replay, session) := replay.fail session (.io text)
      (replay, session, store)

/-- Prints and writes a received event. -/
def put (replay : Replay ω φ) (session : Session σ) (store : ρ) (stamp : Instant)
    (event : Event) : Replay ω φ × Session σ × ρ :=
  match Formatter.line replay.format event with
  | .ok line => replay.putLine session store stamp event line
  | .error e =>
      let (replay, session) := replay.fail session e
      (replay, session, store)

/-- The session without the event at the front of its channel. -/
def receive? (session : Session σ) : Option (Event × Session σ) :=
  session.crew.channel.pop?.map fun (event, channel) =>
    (event, { session with crew := { session.crew with channel } })

/-- The step of a replay, if it has one. -/
def step? (replay : Replay ω φ) (session : Session σ) (store : ρ) (stamp : Instant) :
    Option (Replay ω φ × Session σ × ρ) :=
  match replay.phase with
  | .done _ => none
  | .awaiting =>
      session.summary?.map fun summary =>
        ({ replay with phase := .done (.ok summary) }, session, store)
  | .receiving =>
      match receive? session with
      | some (event, session) => some (replay.put session store stamp event)
      | none =>
          if session.crew.isDry then
            let (replay, session) := replay.complete session
            some (replay, session, store)
          else none

/-- The result of a replay that is done. -/
def result? (replay : Replay ω φ) : Option (Except Command.Error Summary) :=
  match replay.phase with
  | .done result => some result
  | _ => none

end Replay

end TopicReplay
