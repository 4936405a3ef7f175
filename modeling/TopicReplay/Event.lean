import TopicReplay.Partition
import TopicReplay.Text.Utf8
import TopicReplay.Time.Instant

/-!
# Messages and events

A message is what a partition holds at an offset. An event is a message together
with the partition it was read from.
-/

namespace TopicReplay

open Text (Bytes)

/-- A message of a partition. Key and value may be absent, which is not the same
as empty. -/
structure Message where
  offset : Int
  key : Option Bytes
  value : Option Bytes
  timestamp : Option Instant
  deriving DecidableEq, Repr

/-- A message with the partition that it was read from. -/
structure Event where
  topic : String
  partition : Int
  offset : Int
  key : Option Bytes
  value : Option Bytes
  timestamp : Option Instant
  deriving DecidableEq, Repr

/-- The event of a message read from a partition. -/
def Message.toEvent (message : Message) (place : TopicPartition) : Event where
  topic := place.topic
  partition := place.partition
  offset := message.offset
  key := message.key
  value := message.value
  timestamp := message.timestamp

namespace Event

/-- The partition that an event was read from. -/
def place (event : Event) : TopicPartition := ⟨event.topic, event.partition⟩

/-- The bytes of key and value together. -/
def payloadSize (event : Event) : Nat :=
  (event.key.map List.length).getD 0 + (event.value.map List.length).getD 0

/-- The key as text, with replacement characters where it is none. -/
def keyText (event : Event) : Option String := event.key.map Text.lossyString

/-- The value as text, with replacement characters where it is none. -/
def valueText (event : Event) : Option String := event.value.map Text.lossyString

end Event

@[simp]
theorem Message.place_toEvent (message : Message) (place : TopicPartition) :
    (message.toEvent place).place = place := rfl

@[simp]
theorem Message.offset_toEvent (message : Message) (place : TopicPartition) :
    (message.toEvent place).offset = message.offset := rfl

end TopicReplay
