import TopicReplay.Event
import TopicReplay.Json.Reader
import TopicReplay.Time.Rfc3339

/-!
# Events as JSON

An event is written as an object. It is read back from an object with its members
in any order and others among them, where key, value and timestamp may be left
out, or from a list of six items in the order in which the object is written.
-/

namespace TopicReplay

open Json (Draft Failure)
open Text (Bytes)

/-- An address as JSON. -/
def TopicPartition.toJson (place : TopicPartition) : Json :=
  .object [("topic", .string place.topic), ("partition", .int place.partition)]

/-- A scope as JSON. -/
def PartitionScope.toJson : PartitionScope → Json
  | .all => .string "All"
  | .partition number => .object [("Partition", .int number)]

namespace Event

/-- Bytes as JSON: a list of their numbers. -/
def bytesToJson (bytes : Bytes) : Json := .array (bytes.map fun b => .int b.toNat)

/-- An event as JSON. -/
def toJson (event : Event) : Json :=
  .object [
    ("topic", .string event.topic),
    ("partition", .int event.partition),
    ("key", .ofOption bytesToJson event.key),
    ("value", .ofOption bytesToJson event.value),
    ("timestamp", .ofOption (fun t => .string t.canonical) event.timestamp),
    ("offset", .int event.offset)]

/-- Reads a byte. -/
def readByte (draft : Draft) : Except Failure UInt8 :=
  (draft.asInt 0 255).map fun n => n.toNat.toUInt8

/-- Reads bytes. -/
def readBytes (draft : Draft) : Except Failure Bytes := draft.asList readByte

/-- Reads an instant. -/
def readInstant (draft : Draft) : Except Failure Instant := do
  let text ← draft.asString
  (Time.Layout.rfc3339Loose.read text.toList).mapError fun _ => .kind

/-- Reads the number of a partition. -/
def readPartition (draft : Draft) : Except Failure Int := draft.asInt Text.minInt32 Text.maxInt32

/-- Reads an offset. -/
def readOffset (draft : Draft) : Except Failure Int := draft.asInt Text.minInt64 Text.maxInt64

/-- The members of an event that have been read. -/
structure Members where
  topic : Option String := none
  partition : Option Int := none
  key : Option (Option Bytes) := none
  value : Option (Option Bytes) := none
  timestamp : Option (Option Instant) := none
  offset : Option Int := none

/-- Reads a member that was not read before. -/
def once {α : Type} (read : Draft → Except Failure α) (before : Option α) (draft : Draft) :
    Except Failure (Option α) :=
  match before with
  | some _ => .error .kind
  | none => (read draft).map some

/-- Reads a member. One of another name is passed over. -/
def Members.read (members : Members) (name : String) (draft : Draft) : Except Failure Members :=
  match name with
  | "topic" => return { members with topic := ← once Draft.asString members.topic draft }
  | "partition" => return { members with partition := ← once readPartition members.partition draft }
  | "key" => return { members with key := ← once (Draft.asOption readBytes) members.key draft }
  | "value" =>
      return { members with value := ← once (Draft.asOption readBytes) members.value draft }
  | "timestamp" => do
      let timestamp ← once (Draft.asOption readInstant) members.timestamp draft
      return { members with timestamp }
  | "offset" => return { members with offset := ← once readOffset members.offset draft }
  | _ => draft.skip.map fun _ => members

/-- Reads members one after the other. -/
def Members.readAll : List (Except Json.Fault String × Draft) → Members → Except Failure Members
  | [], members => .ok members
  | (key, draft) :: rest, members => do
      let name ← Draft.readKey key
      readAll rest (← members.read name draft)

/-- The event with these members, of which topic, partition and offset are needed. -/
def Members.toEvent? (members : Members) : Option Event := do
  return {
    topic := ← members.topic
    partition := ← members.partition
    offset := ← members.offset
    key := members.key.join
    value := members.value.join
    timestamp := members.timestamp.join }

/-- The fault of a list that does not end where it should. A list that breaks off
behind a comma goes on too far. -/
def overlong (fault : Json.Fault) : Json.Fault :=
  if fault.kind = .endInValue then { fault with kind := .trailingCharacters } else fault

/-- The fault of a list with an item too many. -/
def extraItem : Json.Fault := ⟨.trailingCharacters, 0, 0⟩

/-- The next item of a list, with what its end would be at fault for. -/
def nextItem (rest : Option Json.Fault) : List Draft → Except Failure (Draft × List Draft)
  | [] => .error (rest.elim .kind .form)
  | item :: items => .ok (item, items)

/-- Reads the items of an event in the order in which its members are written. -/
def readItems (rest : Option Json.Fault) (items : List Draft) : Except Failure Event := do
  let (item, items) ← nextItem rest items
  let topic ← item.asString
  let (item, items) ← nextItem rest items
  let partition ← readPartition item
  let (item, items) ← nextItem rest items
  let key ← item.asOption readBytes
  let (item, items) ← nextItem rest items
  let value ← item.asOption readBytes
  let (item, items) ← nextItem rest items
  let timestamp ← item.asOption readInstant
  let (item, items) ← nextItem rest items
  let offset ← readOffset item
  if !items.isEmpty then throw (.form extraItem)
  if let some fault := rest then throw (.form (overlong fault))
  return { topic, partition, offset, key, value, timestamp }

/-- Reads an event. -/
def ofDraft : Draft → Except Failure Event
  | .object members rest => do
      let members ← Members.readAll members {}
      if let some fault := rest then throw (.form fault)
      match members.toEvent? with
      | some event => return event
      | none => throw .kind
  | .array items rest => readItems rest items
  | other => .error other.mismatch

/-- Reads an event from a text. -/
def ofText (text : String) : Except Failure Event := Json.Reader.readAs ofDraft text.toList

end Event

end TopicReplay
