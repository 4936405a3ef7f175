import TopicReplay.Proofs.Event.Line
import TopicReplay.Proofs.Replay.Record

/-!
# The output of a replay

The output is told by what has been written to it. As long as no write fails, it is the
lines of the received events, each with its end, and as no JSON line has an end within
it, the output splits into these lines again.

The main statement is `json_output_is_faithful`.
-/

namespace TopicReplay

open Broker (Client)
open Relation (ReflTransGen)
open Store (OffsetStore)

/-- An output whose text is known: a line that was written stands at its end, and flushing
leaves it alone. -/
class TextWriter (ω : Type) extends Writer ω where
  text : ω → List Char
  text_write {writer after : ω} {line : String} (writes : write writer line = (none, after)) :
    text after = text writer ++ (line.toList ++ ['\n'])
  text_flush (writer : ω) : text (flush writer).2 = text writer

namespace LineWriter

theorem text_of_writePiece {writer after : LineWriter} {piece : String}
    (writes : writer.writePiece piece = (none, after)) :
    after.text.toList = writer.text.toList ++ piece.toList := by
  have pieces : after.pieces = piece :: writer.pieces := by
    unfold writePiece at writes
    split at writes
    · split at writes
      · cases writes
      · cases writes
        rfl
    · cases writes
      rfl
  simp [text, pieces]

instance : TextWriter LineWriter where
  text writer := writer.text.toList
  text_write {writer after line} writes := by
    change writer.writeLine line = _ at writes
    unfold writeLine at writes
    split at writes
    case h_1 between first =>
      rw [text_of_writePiece writes, text_of_writePiece first, List.append_assoc]
      rfl
    case h_2 failed => exact absurd writes (failed after)
  text_flush _ := rfl

end LineWriter

/-- The text of lines, each with its end. -/
def joinLines (lines : List String) : List Char := lines.flatMap fun line => line.toList ++ ['\n']

/-- Lines without an end within them are found again in their text. -/
theorem splitOn_joinLines {lines : List String} (unbroken : ∀ line ∈ lines, '\n' ∉ line.toList) :
    (joinLines lines).splitOn '\n' = lines.map String.toList ++ [[]] := by
  induction lines with
  | nil => rfl
  | cons line rest ih =>
      rcases List.forall_mem_cons.mp unbroken with ⟨first, others⟩
      rw [joinLines, List.flatMap_cons, List.append_assoc, List.singleton_append,
        List.splitOn_append_cons_self_of_not_mem first]
      exact congrArg _ (ih others)

theorem joinLines_append (lines more : List String) :
    joinLines (lines ++ more) = joinLines lines ++ joinLines more :=
  List.flatMap_append

variable {β σ ρ ω φ : Type} [OffsetStore ρ] [TextWriter ω] [Formatter φ]

omit [Formatter φ] in
theorem Replay.text_complete (replay : Replay ω φ) (session : Session σ) :
    TextWriter.text (replay.complete session).1.writer = TextWriter.text replay.writer := by
  have flushed := TextWriter.text_flush replay.writer
  unfold complete
  split
  case h_1 after flushes => rwa [flushes] at flushed
  case h_2 fault after flushes =>
    rw [flushes] at flushed
    exact flushed

/-- A step that refuses nothing appends the lines that it writes. -/
theorem Replay.Move.text_eq {replay : Replay ω φ} {session : Session σ} {store : ρ}
    {stamp : Instant} {deed : Deed} {result : Replay ω φ × Session σ × ρ}
    (move : replay.Move session store stamp deed result) (unrefused : deed.refused = []) :
    TextWriter.text result.1.writer =
      TextWriter.text replay.writer ++ joinLines (deed.written.map (·.2)) := by
  have appended {writer after : ω} {event : Event} {line : String}
      (writes : Writer.write writer line = (none, after)) :
      TextWriter.text after =
        TextWriter.text writer ++ joinLines ([(event, line)].map (·.2)) := by
    rw [TextWriter.text_write writes]
    simp [joinLines]
  cases move with
  | wrote phase receives prints writes quiet => exact appended writes
  | committed phase receives prints writes asked commits => exact appended writes
  | uncommitted phase receives prints writes asked commits => exact appended writes
  | unprinted phase receives unprintable => cases unrefused
  | broke phase receives prints breaks => cases unrefused
  | closed phase receives prints closes => cases unrefused
  | exhausted phase none dry =>
      rw [text_complete]
      exact (List.append_nil _).symm
  | finished phase drawn => exact (List.append_nil _).symm

namespace Stage

variable [Client β σ] {others : β → β → Prop} {stage after : Stage β σ ρ ω φ}
  {before : List Char}

/-- Whether the output has got the lines that were written, if none was refused. -/
def Spoken (before : List Char) (stage : Stage β σ ρ ω φ) : Prop :=
  stage.refused = [] →
    TextWriter.text stage.replay.writer = before ++ joinLines (stage.written.map (·.2))

theorem Spoken.step (spoken : stage.Spoken before) (step : Step others stage after) :
    after.Spoken before := by
  intro unrefused
  cases step with
  | beside turn => exact spoken unrefused
  | @replay stamp deed replay session store does steps =>
      have moves := Replay.move_of_step? steps
      rw [does] at moves
      rcases List.append_eq_nil_iff.mp unrefused with ⟨earlier, now⟩
      rw [moves.text_eq now, spoken earlier, List.map_append, joinLines_append, List.append_assoc]

theorem Spoken.run (spoken : stage.Spoken before) (runs : ReflTransGen (Step others) stage after) :
    after.Spoken before := by
  induction runs with
  | refl => exact spoken
  | tail _ step ih => exact ih.step step

section Start

variable (settings : Settings) (born : Nat) (cancelled : Bool) (topics : Session.Topics)
  (now : Nat) (client : β) (store : ρ) (format : φ) (commits : Bool) (writer : ω)

omit [OffsetStore ρ] [Formatter φ] in
theorem spoken_start :
    (start settings born cancelled topics now client store format commits writer :
      Stage β σ ρ ω φ).Spoken (TextWriter.text writer) := by
  obtain ⟨result, scene, phase, -, stage_eq, -⟩ :=
    start_cases settings born cancelled topics now client store format commits writer
  rw [stage_eq]
  exact fun _ => (List.append_nil _).symm

end Start

omit [OffsetStore ρ] [Client β σ] in
/-- While no line is refused, the output of a replay is the lines of what it has received. -/
theorem text_eq_of_lined {format : φ} {commits : Bool} (lined : stage.Lined format commits)
    (spoken : stage.Spoken []) (unrefused : stage.refused = []) {line : Event → String}
    (prints : ∀ event, Formatter.line format event = .ok (line event)) :
    TextWriter.text stage.replay.writer = joinLines (stage.scene.received.map line) := by
  have written : stage.written.map (·.2) = stage.output.map line := by
    rw [output, List.map_map]
    apply List.map_congr_left
    intro pair member
    have printed := lined.lines pair member
    rw [prints] at printed
    exact (Except.ok.inj printed).symm
  rw [spoken unrefused, List.nil_append, written, lined.received, unrefused, List.append_nil]

end Stage

/-- What JSON output tells of events, whatever their topics and bytes, and whatever instants
they have: every event has a line, which is one line and from which a reader of JSON has the
members of the event, with key and value as they are if they are text. Two events of which
nothing is lost have the same line only if they are the same. The output of a replay whose
writes all succeed splits into one such line for each event, in order. -/
theorem json_output_is_faithful :
    (∀ event : Event, event.InRange →
      ∃ line, Formatter.line OutputFormat.json event = .ok line ∧ event.Shows line) ∧
    (∀ s : String, Text.lossyString (Text.bytesOf s) = s) ∧
    (∀ a b : Event, a.InRange → b.InRange → a.IsPlain → b.IsPlain →
      a.line .json = b.line .json → a = b) ∧
    ∀ (β σ ρ ω : Type) [Client β σ] [OffsetStore ρ] [TextWriter ω] (others : β → β → Prop)
      (settings : Settings) (born : Nat) (cancelled : Bool) (topics : Session.Topics) (now : Nat)
      (client : β) (store : ρ) (commits : Bool) (writer : ω)
      (stage : Stage β σ ρ ω OutputFormat), TextWriter.text writer = [] →
      ReflTransGen (Stage.Step others)
        (Stage.start settings born cancelled topics now client store .json commits writer) stage →
      stage.refused = [] → (∀ event ∈ stage.scene.received, event.InRange) →
        ∃ lines : List String,
          (TextWriter.text stage.replay.writer).splitOn '\n' = lines.map String.toList ++ [[]] ∧
            List.Forall₂ Event.Shows stage.scene.received lines := by
  refine ⟨fun event inRange => ⟨_, rfl, Event.shows_jsonLine inRange⟩, Text.lossyString_bytesOf,
    fun a b first second plain others => Event.jsonLine_injective first second plain others, ?_⟩
  intro β σ ρ ω _ _ _ others settings born cancelled topics now client store commits writer stage
    empty runs unrefused inRange
  have lined := (Stage.lined_start settings born cancelled topics now client store OutputFormat.json
    commits writer).run runs
  have spoken := (Stage.spoken_start settings born cancelled topics now client store
    OutputFormat.json commits writer).run runs
  rw [empty] at spoken
  have text := Stage.text_eq_of_lined lined spoken unrefused fun event => rfl
  have shows : ∀ event ∈ stage.scene.received, event.Shows (event.line .json) := fun event member =>
    Event.shows_jsonLine (inRange event member)
  refine ⟨stage.scene.received.map (·.line .json), ?_, ?_⟩
  · rw [text, splitOn_joinLines]
    intro line member broken
    rcases List.mem_map.mp member with ⟨event, received, rfl⟩
    exact absurd ((shows event received).printable '\n' broken) (by decide)
  · exact List.forall₂_map_right_iff.mpr (List.forall₂_same.mpr shows)

section Odd

open Broker (Cursor LogBroker)
open Store (MemoryStore)

/-- A message with a key that is no text and an empty value, half a millisecond into a leap
second. -/
def oddMessage : Message :=
  ⟨0, some [0x22, 0xFF, 0x0A], some [], some ⟨1483228799, 1000500000, by decide⟩⟩

/-- A replay of this message as JSON, from a topic whose name has two lines. -/
def oddOutput : Stage LogBroker Cursor MemoryStore LineWriter OutputFormat :=
  Stage.start {} 0 false (OrderedMap.empty.insert "a\nb" { common := ⟨.oldest, some .newest⟩ }) 0
    ((({} : LogBroker).addTopic "a\nb" 1).modify 0 fun log =>
      log.append oddMessage.key oddMessage.value oddMessage.timestamp)
    {} .json true {}

/-- The message is read and then written. -/
def oddSchedule : List Scene.Pick := [.work 0, .work 0, .work 0, .work 0, .read]

/-- Even of this message there is one line in the output, from which it can be read. -/
theorem json_output_is_faithful_odd :
    (∃ line, Formatter.line OutputFormat.json (oddMessage.toEvent ⟨"a\nb", 0⟩) = .ok line ∧
      (oddMessage.toEvent ⟨"a\nb", 0⟩).Shows line) ∧
    (∀ other : Event, other.InRange → other.IsPlain →
      (Event.mk "a\nb" 0 0 none (some []) none).line .json = other.line .json →
        ⟨"a\nb", 0, 0, none, some [], none⟩ = other) ∧
    ∃ stage, oddOutput.play? oddSchedule = some stage ∧
      stage.scene.received = [oddMessage.toEvent ⟨"a\nb", 0⟩] ∧
      ∃ lines : List String, stage.replay.writer.text.toList.splitOn '\n' =
          lines.map String.toList ++ [[]] ∧
        List.Forall₂ Event.Shows stage.scene.received lines := by
  rcases json_output_is_faithful with ⟨each, -, apart, whole⟩
  refine ⟨each _ (by decide), fun other inRange plain same => ?_, ?_⟩
  · have empty : ∀ bytes ∈ some ([] : Text.Bytes), ∃ s, Text.bytesOf s = bytes := by
      intro bytes member
      rw [← Option.some.inj member]
      exact ⟨"", rfl⟩
    exact apart _ other (by decide) inRange
      ⟨fun _ member => (Option.not_mem_none _ member).elim, empty,
        fun _ member => (Option.not_mem_none _ member).elim⟩ plain same
  · obtain ⟨stage, played⟩ : ∃ stage, oddOutput.play? oddSchedule = some stage :=
      Option.isSome_iff_exists.mp (by decide +kernel)
    have facts : ∀ stage ∈ oddOutput.play? oddSchedule,
        stage.scene.received = [oddMessage.toEvent ⟨"a\nb", 0⟩] ∧ stage.refused = [] := by
      decide +kernel
    rcases facts stage played with ⟨received, unrefused⟩
    have runs := Stage.reaches_of_play? LogBroker.Change played
    refine ⟨stage, played, received, ?_⟩
    apply whole LogBroker Cursor MemoryStore LineWriter LogBroker.Change {} 0 false _ 0 _ {} true {}
      stage rfl runs unrefused
    rw [received]
    decide

end Odd

end TopicReplay
