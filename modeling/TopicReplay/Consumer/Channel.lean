import TopicReplay.Event

/-!
# Channels

Consumers deliver their events into one bounded channel. An event waits there
until it is received; while the channel is full, nobody can deliver. When the
receiver is gone, nothing can be delivered any more.
-/

namespace TopicReplay

/-- A bounded channel of events. -/
structure Channel where
  capacity : Nat
  buffer : List Event := []
  /-- Whether there is a receiver. -/
  receiving : Bool := true
  deriving DecidableEq

namespace Channel

/-- Whether one more event fits. -/
def hasRoom (channel : Channel) : Bool := channel.buffer.length < channel.capacity

/-- Puts an event at the end. -/
def push (channel : Channel) (event : Event) : Channel :=
  { channel with buffer := channel.buffer ++ [event] }

/-- Takes the event at the front. -/
def pop? (channel : Channel) : Option (Event × Channel) :=
  match channel.buffer with
  | [] => none
  | event :: rest => some (event, { channel with buffer := rest })

/-- Takes the receiver away, and with it what was not received. -/
def hangUp (channel : Channel) : Channel := { channel with buffer := [], receiving := false }

end Channel

end TopicReplay
