import TopicReplay.Event.Line
import TopicReplay.Proofs.Json.Reader
import TopicReplay.Proofs.Text.Utf8
import TopicReplay.Proofs.Time.Layout

/-!
# Reading back event lines

The JSON line of an event has no control characters, and a reader of JSON finds in it the
topic, the partition and the offset of the event, its key and value as text, and its
timestamp cut to milliseconds. What is lost is what is no text, and the fractions of
milliseconds: events that have neither are told apart by their lines.

The main statements are `shows_jsonLine` and `jsonLine_injective`.
-/

namespace TopicReplay

namespace Event

/-- Whether partition and offset have the sizes that they have in every event: 32 and 64
bits. -/
def InRange (event : Event) : Prop :=
  (Text.minInt32 ≤ event.partition ∧ event.partition ≤ Text.maxInt32) ∧
    Text.minInt64 ≤ event.offset ∧ event.offset ≤ Text.maxInt64

instance (event : Event) : Decidable event.InRange := inferInstanceAs (Decidable (_ ∧ _))

/-- Whether a JSON value is that of a timestamp: `null` when there is none, and otherwise a
text that reads as the instant cut to milliseconds. -/
inductive ShowsTime : Option Instant → Json → Prop where
  | absent : ShowsTime none .null
  | present {t : Instant} {text : String}
      (reads : Time.Layout.rfc3339Loose.read text.toList = .ok t.cut) :
      ShowsTime (some t) (.string text)

/-- Whether a JSON value has the members of an event and no others. Key and value are the
text of their bytes, or `null` when they are absent. -/
def ShownBy (event : Event) (value : Json) : Prop :=
  ∃ timestamp, ShowsTime event.timestamp timestamp ∧
    value = .object [
      ("topic", .string event.topic),
      ("partition", .int event.partition),
      ("offset", .int event.offset),
      ("timestamp", timestamp),
      ("key", .ofOption .string (event.key.map Text.lossyString)),
      ("value", .ofOption .string (event.value.map Text.lossyString))]

theorem shownBy_toPrintedJson (event : Event) : event.ShownBy event.toPrintedJson := by
  refine ⟨_, ?_, rfl⟩
  cases event.timestamp with
  | none => exact .absent
  | some t =>
      apply ShowsTime.present
      rw [String.toList_ofList]
      exact Time.read_millis t

theorem legible_ofOption {depth : Nat} (s : Option String) :
    Json.Legible depth (.ofOption .string s) := by
  cases s with
  | none => exact .null
  | some s => exact .string s

/-- What is printed of an event is an object of simple values. -/
theorem legible_toPrintedJson {event : Event} (inRange : event.InRange) (depth : Nat) :
    Json.Legible (depth + 1) event.toPrintedJson := by
  rcases inRange with ⟨⟨partition_least, partition_most⟩, offset_least, offset_most⟩
  unfold Text.minInt32 at partition_least
  unfold Text.maxInt32 at partition_most
  unfold Text.maxInt64 at offset_most
  apply Json.Legible.object
  simp only [List.forall_mem_cons]
  refine ⟨.string _, .int ?_ ?_, .int offset_least ?_, ?_, legible_ofOption _, legible_ofOption _,
    fun _ member => absurd member List.not_mem_nil⟩
  · unfold Text.minInt64
    omega
  · unfold Text.maxUInt64
    omega
  · unfold Text.maxUInt64
    omega
  · cases event.timestamp with
    | none => exact .null
    | some t => exact .string _

/-- Whether a line is the JSON of an event on one line. -/
structure Shows (event : Event) (line : String) : Prop where
  /-- No character is a control character, so that the line does not end before its end. -/
  printable : Json.Printable line.toList
  reads : ∃ value, Json.Reader.json line.toList = .ok value ∧ event.ShownBy value

/-- The JSON line of an event is read back as what it shows of the event. -/
theorem shows_jsonLine {event : Event} (inRange : event.InRange) : event.Shows event.jsonLine := by
  have legible := legible_toPrintedJson inRange 126
  constructor
  · rw [jsonLine, String.toList_ofList]
    exact Json.printable_compact legible
  · rw [jsonLine, String.toList_ofList]
    exact ⟨_, Json.json_compact legible, event.shownBy_toPrintedJson⟩

/-- Whether nothing of an event is lost on its line: its key and value are text, and its
timestamp is one of whole milliseconds. -/
structure IsPlain (event : Event) : Prop where
  key : ∀ bytes ∈ event.key, ∃ s, Text.bytesOf s = bytes
  value : ∀ bytes ∈ event.value, ∃ s, Text.bytesOf s = bytes
  timestamp : ∀ t ∈ event.timestamp, t.nanos % 1000000 = 0

/-- The text of bytes that are text, or their absence, tells them. -/
theorem payload_injective {a b : Option Text.Bytes}
    (first : ∀ bytes ∈ a, ∃ s, Text.bytesOf s = bytes)
    (second : ∀ bytes ∈ b, ∃ s, Text.bytesOf s = bytes)
    (same : a.map Text.lossyString = b.map Text.lossyString) : a = b := by
  cases a with
  | none => exact (Option.map_eq_none_iff.mp same.symm).symm
  | some bytes =>
      rcases Option.map_eq_some_iff.mp same.symm with ⟨others, rfl, equal⟩
      rcases first bytes rfl with ⟨s, rfl⟩
      rcases second others rfl with ⟨u, rfl⟩
      rw [Text.lossyString_bytesOf, Text.lossyString_bytesOf] at equal
      rw [equal]

theorem ofOption_string_injective {s u : Option String}
    (same : Json.ofOption .string s = .ofOption .string u) : s = u := by
  cases s <;> cases u <;> cases same <;> rfl

/-- A value shows one timestamp of whole milliseconds at most. -/
theorem ShowsTime.unique {a b : Option Instant} {value : Json} (first : ShowsTime a value)
    (second : ShowsTime b value) (whole : ∀ t ∈ a, t.nanos % 1000000 = 0)
    (others : ∀ t ∈ b, t.nanos % 1000000 = 0) : a = b := by
  cases first with
  | absent =>
      cases second with
      | absent => rfl
  | @present t text reads =>
      cases second with
      | @present u _ again =>
          have equal : t.cut = u.cut := Except.ok.inj (reads.symm.trans again)
          rw [t.cut_eq_self_iff.mpr (whole t rfl), u.cut_eq_self_iff.mpr (others u rfl)] at equal
          rw [equal]

/-- A value shows one plain event at most. -/
theorem ShownBy.unique {a b : Event} {value : Json} (first : a.ShownBy value)
    (second : b.ShownBy value) (plain : a.IsPlain) (others : b.IsPlain) : a = b := by
  rcases a with ⟨topic, partition, offset, key, value, timestamp⟩
  rcases b with ⟨topic', partition', offset', key', value', timestamp'⟩
  rcases first with ⟨time, shows, rfl⟩
  rcases second with ⟨time', shows', same⟩
  simp only [Json.object.injEq, List.cons.injEq, Prod.mk.injEq, Json.string.injEq, Json.int.injEq,
    true_and, and_true] at same
  rcases same with ⟨rfl, rfl, rfl, rfl, keys, values⟩
  have key_eq : key = key' :=
    payload_injective plain.key others.key (ofOption_string_injective keys)
  have value_eq : value = value' :=
    payload_injective plain.value others.value (ofOption_string_injective values)
  have timestamp_eq : timestamp = timestamp' :=
    shows.unique shows' plain.timestamp others.timestamp
  rw [key_eq, value_eq, timestamp_eq]

/-- Plain events with the same line are the same. -/
theorem jsonLine_injective {a b : Event} (first : a.InRange) (second : b.InRange)
    (plain : a.IsPlain) (others : b.IsPlain) (same : a.jsonLine = b.jsonLine) : a = b := by
  rcases (shows_jsonLine first).reads with ⟨value, read, shown⟩
  rcases (shows_jsonLine second).reads with ⟨value', read', shown'⟩
  rw [same, read'] at read
  cases read
  exact shown.unique shown' plain others

end Event

end TopicReplay
