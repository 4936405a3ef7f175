import TopicReplay.Checkpoint.Error

/-!
# Checkpoints

A checkpoint is a position in a partition: one of its ends, an offset, the first
message from an instant on, or the offset that the offset store holds. The
expressions that name one are keywords in any case, whole numbers from -2 on, and
dates and times. No expression has two meanings.
-/

namespace TopicReplay

/-- A position in a partition. -/
inductive Checkpoint where
  /-- The oldest message that the partition still has. -/
  | oldest
  /-- The end of the partition. -/
  | newest
  /-- The offset that the offset store holds for the partition. -/
  | stored
  | offset (n : Int)
  /-- The first message from this instant on. -/
  | time (t : Instant)
  deriving DecidableEq, Repr

namespace Checkpoint

open Text (trim)

/-- Whether reading may stop at this checkpoint. -/
def canStop : Checkpoint → Bool
  | .offset _ | .time _ | .newest => true
  | .oldest | .stored => false

/-- The text of a checkpoint, which reads back as the same checkpoint. -/
def display : Checkpoint → String
  | .oldest => "oldest"
  | .newest => "newest"
  | .stored => "local"
  | .offset n => Text.integerString n
  | .time t => t.display

/-- The words that name a checkpoint. -/
def keywords : List (String × Checkpoint) :=
  [("oldest", .oldest), ("beginning", .oldest), ("earliest", .oldest), ("start", .oldest),
    ("newest", .newest), ("latest", .newest), ("end", .newest),
    ("local", .stored), ("stored", .stored)]

/-- The checkpoint that a word names, in any case of its ASCII letters. -/
def ofKeyword? (cs : List Char) : Option Checkpoint :=
  (keywords.find? fun word => word.1.toList == cs.map Char.toLower).map (·.2)

/-- The checkpoint that a whole number names: -2 and -1 are the two ends, and
smaller numbers name none. -/
def ofNumber (n : Int) : Except Fault Checkpoint :=
  if n = -2 then .ok .oldest
  else if n = -1 then .ok .newest
  else if n < -2 then .error .belowOldest
  else .ok (.offset n)

/-- The instant that a text names, in RFC 3339 or in a layout without a zone. -/
def instant? (cs : List Char) : Option Instant :=
  Time.Layout.readFirst? (Time.Layout.rfc3339 :: Time.Layout.naive) cs

/-- The checkpoint that a text without white space at its ends names. -/
def ofText (cs : List Char) : Except Fault Checkpoint :=
  match ofKeyword? cs with
  | some checkpoint => .ok checkpoint
  | none =>
      match Text.int64? cs with
      | some n => ofNumber n
      | none =>
          match instant? cs with
          | some t => .ok (.time t)
          | none => .error .unrecognised

/-- Reads an expression. With `isStop` set, only a checkpoint that can stop a
reader is accepted. -/
def parse (raw : String) (isStop : Bool) : Except Error Checkpoint :=
  match trim raw.toList with
  | [] => .error (.unreadable raw .empty)
  | input =>
      match ofText input with
      | .error fault => .error (.unreadable (String.ofList input) fault)
      | .ok checkpoint =>
          if isStop && !checkpoint.canStop then .error (.notAStop (String.ofList input))
          else .ok checkpoint

end Checkpoint

end TopicReplay
