import TopicReplay.OrderedMap
import TopicReplay.Store.Error
import TopicReplay.Text.Word
import TopicReplay.Time.Rfc3339

/-!
# Topic records

The offset store keeps one record for each topic of an environment: the next
offset to read of every partition that was committed, and the instant of the last
commit. A record has one binary form, in which the partitions ascend. Reading
accepts the partitions in any order and passes over what follows the record.
-/

namespace TopicReplay.Store

open Text (Bytes word wordValue signedWord signedWordValue)

/-- The stored offsets of a topic, by partition. -/
structure TopicRecord where
  offsets : OrderedMap Int Int := .empty
  updatedAt : Option Instant := none
  deriving DecidableEq, Repr, Inhabited

namespace TopicRecord

/-- The offset stored for a partition. -/
def get? (record : TopicRecord) (partition : Int) : Option Int := record.offsets.get? partition

/-- Whether no offset is stored. -/
def isEmpty (record : TopicRecord) : Bool := record.offsets.isEmpty

/-- Stores an offset at an instant. -/
def set (record : TopicRecord) (now : Instant) (partition offset : Int) : TopicRecord where
  offsets := record.offsets.insert partition offset
  updatedAt := some now

/-- The bytes of one stored offset. -/
def encodeEntry (entry : Int × Int) : Bytes := signedWord 4 entry.1 ++ signedWord 8 entry.2

/-- The bytes of the instant of the last commit. -/
def encodeStamp : Option Instant → Bytes
  | none => [0]
  | some t =>
      let text := Text.encodeUtf8 (t.text .shortest .letter)
      1 :: word 8 text.length ++ text

/-- The bytes of a record. -/
def encode (record : TopicRecord) : Bytes :=
  word 8 record.offsets.size ++ record.offsets.toList.flatMap encodeEntry ++
    encodeStamp record.updatedAt

/-- Takes so many bytes from the front. -/
def takeBytes (count : Nat) (bytes : Bytes) : Except RecordFault (Bytes × Bytes) :=
  let taken := bytes.take count
  if taken.length < count then .error .truncated else .ok (taken, bytes.drop count)

/-- Reads so many stored offsets. Of two for one partition the later one counts. -/
def decodeEntries : Nat → OrderedMap Int Int → Bytes →
    Except RecordFault (OrderedMap Int Int × Bytes)
  | 0, offsets, bytes => .ok (offsets, bytes)
  | count + 1, offsets, bytes => do
      let (partition, rest) ← takeBytes 4 bytes
      let (offset, rest) ← takeBytes 8 rest
      decodeEntries count (offsets.insert (signedWordValue partition) (signedWordValue offset)) rest

/-- Reads the instant of the last commit. -/
def decodeStamp (bytes : Bytes) : Except RecordFault (Option Instant) := do
  let (tag, rest) ← takeBytes 1 bytes
  match wordValue tag with
  | 0 => return none
  | 1 =>
      let (length, rest) ← takeBytes 8 rest
      let text := rest.take (wordValue length)
      if text.length < wordValue length then throw (.io "")
      match Text.decodeUtf8 text with
      | .error run => throw (.notText run)
      | .ok cs => ((Time.Layout.rfc3339Loose.read cs).mapError .notAnInstant).map some
  | found => throw (.badTag found)

/-- Reads a record. -/
def decode (bytes : Bytes) : Except RecordFault TopicRecord := do
  let (count, rest) ← takeBytes 8 bytes
  let (offsets, rest) ← decodeEntries (wordValue count) .empty rest
  let updatedAt ← decodeStamp rest
  return { offsets, updatedAt }

end TopicRecord

end TopicReplay.Store
