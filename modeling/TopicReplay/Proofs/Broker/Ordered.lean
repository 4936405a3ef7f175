import TopicReplay.Broker.Basic

/-!
# Clients in order

What a session relies on when it reads from a broker: a topic lists no partition twice,
and a stream gives its messages in the order of their offsets. A stream has a position,
which lies above all that it has given and never falls. The laws hold of brokers in a
sound state, and whatever a session does to a broker keeps it sound.
-/

namespace TopicReplay.Broker

/-- A broker whose streams give their messages in the order of the offsets. -/
class OrderedClient (β : Type) (σ : outParam Type) [Client β σ] where
  /-- Whether the laws hold of a broker in this state. -/
  Sound : β → Prop
  /-- The offset below which a stream has given everything that it will give. -/
  position : σ → Int
  nodup_partitions {client : β} {topic : String} {partitions : List Int} :
    Sound client → Client.partitions client topic = .ok partitions → partitions.Nodup
  sound_create {client after : β} {topic : String} {spec : TopicSpec} :
    Sound client → Client.create client topic spec = .ok after → Sound after
  sound_attach {client after : β} {place : TopicPartition} {start : Int} {stream : σ} :
    Sound client → Client.attach client place start = .ok (stream, after) → Sound after
  sound_release {client : β} (stream : σ) : Sound client → Sound (Client.release client stream)
  sound_poll {client after : β} {stream next : σ} {reading : Reading} :
    Sound client → Client.poll client stream = (reading, next, after) → Sound after
  position_le_poll {client after : β} {stream next : σ} {reading : Reading} :
    Sound client → Client.poll client stream = (reading, next, after) →
      position stream ≤ position next
  offset_poll {client after : β} {stream next : σ} {m : Message} :
    Sound client → Client.poll client stream = (.message m, next, after) →
      position stream ≤ m.offset ∧ m.offset < position next

end TopicReplay.Broker
