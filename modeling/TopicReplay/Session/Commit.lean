import TopicReplay.Session.Basic

/-!
# Committing

When an event was processed, its partition has progressed to the offset behind it.
Progress is noted in the session first and then stored. It never falls within a
session, so that committing an older event stores the furthest progress again.
-/

namespace TopicReplay.Session

open Store (OffsetStore)

variable {σ ρ : Type} [OffsetStore ρ]

/-- Notes that the event at an offset was processed. -/
def advance (session : Session σ) (place : TopicPartition) (offset : Int) : Session σ :=
  { session with
    progress := session.progress.update place fun current =>
      (current.map (max · (offset + 1))).getD (offset + 1) }

/-- The next offset to read of a partition, where one is noted. -/
def next? (session : Session σ) (place : TopicPartition) : Option Int := session.progress.get? place

/-- Stores the next offset to read of a partition. -/
def persist (session : Session σ) (store : ρ) (stamp : Instant) (place : TopicPartition)
    (next : Int) : Except Store.Error ρ :=
  OffsetStore.commit store stamp ⟨session.settings.environment, place.topic⟩ place.partition next

/-- Notes and stores that the event at an offset was processed. Progress is kept
even where storing it fails. -/
def commit (session : Session σ) (store : ρ) (stamp : Instant) (place : TopicPartition)
    (offset : Int) : Session σ × Except Store.Error ρ :=
  let session := session.advance place offset
  (session, session.persist store stamp place ((session.next? place).getD (offset + 1)))

end TopicReplay.Session
