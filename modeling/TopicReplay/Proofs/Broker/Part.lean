import TopicReplay.Proofs.Broker.Sound

/-!
# What belongs to a partition

Of everything that a broker keeps, little concerns one partition: its log, and the error
that lookups of it meet. Two brokers may agree on this part and have nothing else in
common. While one of them goes on, the place of the log does not change either.
-/

namespace TopicReplay.Broker.LogBroker

variable {broker after other : LogBroker} {place : TopicPartition} {n : Nat}

/-- The log of a partition. -/
def part (broker : LogBroker) (place : TopicPartition) : Except Error PartitionLog :=
  (broker.locate place).map broker.log

/-- Whether two brokers have the same partition at a place, wherever they keep it. -/
structure Alike (place : TopicPartition) (broker other : LogBroker) : Prop where
  part : other.part place = broker.part place
  lookup : other.lookupFaults.get? place = broker.lookupFaults.get? place

/-- Whether a broker still has a partition as it was, and where it was. -/
structure Same (place : TopicPartition) (broker after : LogBroker) : Prop where
  located : after.locate place = broker.locate place
  log : ∀ n, broker.locate place = .ok n → after.log n = broker.log n
  lookup : after.lookupFaults.get? place = broker.lookupFaults.get? place

theorem Same.refl (place : TopicPartition) (broker : LogBroker) : broker.Same place broker :=
  ⟨rfl, fun _ _ => rfl, rfl⟩

theorem Same.alike (same : Same place broker after) : Alike place broker after where
  part := by
    rw [LogBroker.part, LogBroker.part, same.located]
    cases located : broker.locate place with
    | error e => rfl
    | ok n => simp [Except.map, same.log n located]
  lookup := same.lookup

/-- A lookup asks for nothing but the part of its partition. -/
theorem lookup_eq (broker : LogBroker) (place : TopicPartition) (query : OffsetQuery) :
    broker.lookup place query =
      (broker.part place).bind fun log =>
        match broker.lookupFaults.get? place with
        | some e => .error e
        | none => .ok (log.lookup query) := by
  unfold LogBroker.lookup LogBroker.part
  cases broker.locate place with
  | error e => rfl
  | ok n => cases broker.lookupFaults.get? place <;> rfl

theorem Alike.lookup_eq (alike : Alike place broker other) (query : OffsetQuery) :
    other.lookup place query = broker.lookup place query := by
  rw [LogBroker.lookup_eq, LogBroker.lookup_eq, alike.part, alike.lookup]

theorem same_release (place : TopicPartition) (broker : LogBroker) (cursor : Cursor) :
    broker.Same place (Client.release broker cursor) :=
  ⟨rfl, fun _ _ => rfl, rfl⟩

theorem same_attach {attached : TopicPartition} {start : Int} {cursor : Cursor}
    (attaches : Client.attach broker attached start = .ok (cursor, after)) :
    broker.Same place after := by
  rcases attach_eq_ok_iff.mp attaches with ⟨n, -, -, rfl⟩
  exact ⟨rfl, fun _ _ => rfl, rfl⟩

/-- Reading another log leaves a partition as it was. -/
theorem same_poll {cursor next : Cursor} {reading : Reading}
    (polled : Client.poll broker cursor = (reading, next, after))
    (apart : broker.locate place ≠ .ok cursor.log) : broker.Same place after := by
  rw [← (of_poll polled).2.2]
  constructor
  · rfl
  · intro n located
    apply log_poll_of_ne broker
    intro same
    rw [located, same] at apart
    exact apart rfl
  · rfl

theorem Same.trans {third : LogBroker} (first : Same place broker after)
    (second : Same place after third) : Same place broker third where
  located := second.located.trans first.located
  log n located := by
    rw [second.log n (first.located.trans located), first.log n located]
  lookup := second.lookup.trans first.lookup

end TopicReplay.Broker.LogBroker
