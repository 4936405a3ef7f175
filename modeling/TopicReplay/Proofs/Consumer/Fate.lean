import TopicReplay.Proofs.Broker.Part
import TopicReplay.Proofs.Consumer.Stuck

/-!
# The fate of a consumer

What a consumer has yet to deliver, and how it will end, is settled by its log, as long as
nothing is done to the log and the consumer is heard and not told to stop. Each of its
steps takes the next event off this fate or leaves it as it is. The steps do not go on
forever either, since each of them takes some of its effort.
-/

namespace TopicReplay

open Broker (Client Cursor LogBroker PartitionLog)
open Store (OffsetStore)

/-- What a consumer has yet to deliver, and how it will end, if it will. -/
structure Fate where
  events : List Event := []
  ending : Option Ending := none

namespace Fate

/-- A fate with events in front of it. -/
def behind (fate : Fate) (events : List Event) : Fate :=
  { fate with events := events ++ fate.events }

@[simp]
theorem behind_nil (fate : Fate) : fate.behind [] = fate := rfl

@[simp]
theorem events_behind (fate : Fate) (events : List Event) :
    (fate.behind events).events = events ++ fate.events := rfl

@[simp]
theorem ending_behind (fate : Fate) (events : List Event) :
    (fate.behind events).ending = fate.ending := rfl

/-- The fate of one who reads the messages of a log to its end. -/
def ofMessages (place : TopicPartition) (bounds : Bounds) (closed : Bool) : List Message → Fate
  | [] => { ending := if closed then some (.finished .streamEnded) else none }
  | m :: rest =>
      if m.offset < bounds.start then ofMessages place bounds closed rest
      else if bounds.endAt m then
        { events := [m.toEvent place], ending := some (.finished .stopped) }
      else (ofMessages place bounds closed rest).behind [m.toEvent place]

/-- The fate of one who reads a log from an offset on. An error that does not pass comes
before all messages, after the errors that do. -/
def ofLog (place : TopicPartition) (bounds : Bounds) (log : PartitionLog) (next : Int) : Fate :=
  match log.faults.find? (!·.isRetryable) with
  | some e => { ending := some (.failed (.broker e)) }
  | none => ofMessages place bounds log.closed (log.onward next)

/-- The fate of one who is about to open a stream. -/
def ofPart (place : TopicPartition) (bounds : Bounds) : Except Broker.Error PartitionLog → Fate
  | .ok log => ofLog place bounds log bounds.start
  | .error e => { ending := some (.failed (.broker e)) }

/-- The fate of one who knows what comes of its bounds. -/
def ofBounds (place : TopicPartition) (part : Except Broker.Error PartitionLog) :
    Consumer.Resolved Bounds → Fate
  | .value bounds =>
      if bounds.areCrossed then { ending := some (.finished .stopped) }
      else ofPart place bounds part
  | .error e => { ending := some (.failed e) }
  | .breakdown => { ending := some .crashed }

end Fate

namespace Consumer

open Broker.LogBroker

variable {ρ : Type} [OffsetStore ρ] {around : Surroundings LogBroker ρ} {consumer : Consumer Cursor}
  {outcome : Outcome LogBroker Cursor} {broker after : LogBroker} {store stored : ρ}

/-- The fate of a consumer. -/
def fate (consumer : Consumer Cursor) (broker : LogBroker) (store : ρ) : Fate :=
  match consumer.phase with
  | .resolving =>
      .ofBounds consumer.place (broker.part consumer.place)
        (resolve broker store consumer.environment consumer.place consumer.span)
  | .attaching bounds => .ofPart consumer.place bounds (broker.part consumer.place)
  | .reading bounds cursor | .resting bounds cursor _ =>
      .ofLog consumer.place bounds (broker.log cursor.log) cursor.next
  | .sending bounds cursor event isLast =>
      (if isLast then { ending := some (.finished .stopped) }
        else Fate.ofLog consumer.place bounds (broker.log cursor.log) cursor.next).behind [event]
  | .ended ending => { ending := some ending }

theorem fate_of_ending? {ending : Ending} (ended : consumer.ending? = some ending) :
    consumer.fate broker store = { ending := some ending } := by
  simp [fate, phase_of_ending? ended]

/-- What a log still holds for a reader. -/
def left (log : PartitionLog) (next : Int) : Nat :=
  2 * log.faults.length + 2 * (log.onward next).length

/-- How many steps a consumer may still take. -/
def effort (consumer : Consumer Cursor) (broker : LogBroker) : Nat :=
  match consumer.phase with
  | .resolving =>
      match broker.part consumer.place with
      | .ok log => 2 * log.faults.length + 2 * log.messages.length + 3
      | .error _ => 2
  | .attaching _ =>
      match broker.part consumer.place with
      | .ok log => 2 * log.faults.length + 2 * log.messages.length + 2
      | .error _ => 1
  | .reading _ cursor => left (broker.log cursor.log) cursor.next + 1
  | .resting _ cursor _ | .sending _ cursor _ _ => left (broker.log cursor.log) cursor.next + 2
  | .ended _ => 0

section Poll

variable {cursor next : Cursor} {e : Broker.Error} {m : Message} {place : TopicPartition}
  {bounds : Bounds}

/-- An error is used up by the reader that meets it. -/
theorem log_of_fault (polled : Client.poll broker cursor = (.fault e, next, after)) :
    next = cursor ∧ ∃ rest, (broker.log cursor.log).faults = e :: rest ∧
      after.log cursor.log = { broker.log cursor.log with faults := rest } := by
  obtain ⟨given, rfl, rfl⟩ := of_poll polled
  rcases PartitionLog.read_eq_fault_iff.mp given with ⟨rest, faults⟩
  refine ⟨rfl, rest, faults, ?_⟩
  rw [log_poll_self, PartitionLog.read_of_faults faults]

/-- A message is split off those that are left, and the log stays as it is. -/
theorem log_of_message (sound : broker.Sound)
    (polled : Client.poll broker cursor = (.message m, next, after)) :
    next = { cursor with next := m.offset + 1 } ∧ (broker.log cursor.log).faults = [] ∧
      (broker.log cursor.log).onward cursor.next =
        m :: (broker.log cursor.log).onward (m.offset + 1) ∧
      after.log cursor.log = broker.log cursor.log := by
  obtain ⟨given, rfl, rfl⟩ := of_poll polled
  rcases PartitionLog.read_eq_message_iff.mp given with ⟨faults, found⟩
  refine ⟨rfl, faults, (sound.dense _).onward_eq_cons found, ?_⟩
  rw [log_poll_self, PartitionLog.read_of_no_faults faults]

theorem Fate.ofLog_of_faults {log : PartitionLog} (faults : log.faults = []) (next : Int) :
    Fate.ofLog place bounds log next =
      Fate.ofMessages place bounds log.closed (log.onward next) := by
  rw [Fate.ofLog, faults]
  rfl

end Poll

/-- A step takes what it delivers off the fate of a consumer, unless it cuts the fate short. -/
theorem Move.fate_eq (move : Move around consumer outcome) (sound : around.client.Sound)
    (unspoilt : around.stop = false ∧ around.channel.receiving = true ∨
      outcome.consumer.ending? = none) :
    consumer.fate around.client around.store =
      (outcome.consumer.fate outcome.client around.store).behind outcome.emission.events := by
  cases move with
  | cancelled going told => simp [told] at unspoilt
  | resolved _ phase resolves open_ =>
      simp [fate, phase, resolves, Fate.ofBounds, open_]
  | crossed _ phase resolves crossed =>
      simp [fate, phase, resolves, Fate.ofBounds, crossed]
  | unresolved _ phase resolves => simp [fate, phase, resolves, Fate.ofBounds]
  | crashed _ phase resolves => simp [fate, phase, resolves, Fate.ofBounds]
  | attached _ phase attaches =>
      rcases attach_eq_ok_iff.mp attaches with ⟨n, located, rfl, rfl⟩
      simp [fate, phase, part, located, Except.map, Fate.ofPart, log]
  | unattached _ phase attaches =>
      have missing := attach_eq_error_iff.mp attaches
      simp [fate, phase, part, missing, Except.map, Fate.ofPart]
  | ended _ phase polled =>
      obtain ⟨given, -, -⟩ := of_poll polled
      rcases PartitionLog.read_eq_ended_iff.mp given with ⟨faults, missing, closed⟩
      simp [fate, phase, Fate.ofLog_of_faults faults, Fate.ofMessages, closed,
        PartitionLog.onward_of_messageAt?_eq_none missing]
  | rested _ phase polled passing =>
      obtain ⟨rfl, rest, faults, log_eq⟩ := log_of_fault polled
      simp [fate, phase, log_eq, Fate.ofLog, faults, passing, PartitionLog.onward]
  | failed _ phase polled lasting =>
      obtain ⟨rfl, rest, faults, log_eq⟩ := log_of_fault polled
      simp [fate, phase, Fate.ofLog, faults, lasting]
  | skipped _ phase polled before =>
      obtain ⟨rfl, faults, onward_eq, log_eq⟩ := log_of_message sound polled
      simp [fate, phase, log_eq, Fate.ofLog_of_faults faults, onward_eq, Fate.ofMessages, before]
  | @took bounds cursor _ after m _ phase polled onward =>
      obtain ⟨rfl, faults, onward_eq, log_eq⟩ := log_of_message sound polled
      cases last : bounds.endAt m with
      | true =>
          simp [fate, phase, Fate.ofLog_of_faults faults, onward_eq, Fate.ofMessages,
            Int.not_lt.mpr onward, last, Fate.behind]
      | false =>
          simp [fate, phase, log_eq, Fate.ofLog_of_faults faults, onward_eq, Fate.ofMessages,
            Int.not_lt.mpr onward, last]
  | woke _ phase due => simp [fate, phase]
  | unheard _ phase deaf => simp [deaf] at unspoilt
  | delivered _ phase _ room => simp [fate, phase, Fate.behind]
  | stopped _ phase _ room => simp [fate, phase, Fate.behind]

/-- Every step of a consumer takes some of its effort. -/
theorem Move.effort_lt (move : Move around consumer outcome) (sound : around.client.Sound) :
    outcome.consumer.effort outcome.client < consumer.effort around.client := by
  have shorter (log : PartitionLog) (next : Int) :
      (log.onward next).length ≤ log.messages.length := by
    rw [PartitionLog.onward, List.length_drop]
    omega
  cases move with
  | cancelled going told =>
      have unended := ending?_eq_none_iff.mp going
      have positive : 0 < consumer.effort around.client := by
        unfold effort
        cases phase : consumer.phase with
        | ended ending => exact absurd phase (unended ending)
        | resolving =>
            simp only
            split <;> omega
        | attaching bounds =>
            simp only
            split <;> omega
        | _ =>
            simp only
            omega
      simpa [effort] using positive
  | resolved _ phase resolves open_ =>
      simp only [effort, phase, phase_enter, place_enter]
      split <;> omega
  | crossed _ phase resolves crossed =>
      simp only [effort, phase, consumer_finish, phase_enter]
      split <;> omega
  | unresolved _ phase resolves =>
      simp only [effort, phase, consumer_finish, phase_enter]
      split <;> omega
  | crashed _ phase resolves =>
      simp only [effort, phase, consumer_finish, phase_enter]
      split <;> omega
  | @attached bounds cursor client _ phase attaches =>
      rcases attach_eq_ok_iff.mp attaches with ⟨n, located, rfl, rfl⟩
      have le := shorter (around.client.log n) bounds.start
      simp only [effort, phase, phase_enter, part, located, Except.map, left]
      change 2 * (around.client.log n).faults.length +
        2 * ((around.client.log n).onward bounds.start).length + 1 < _
      omega
  | unattached _ phase attaches =>
      simp only [effort, phase, consumer_finish, phase_enter]
      split <;> omega
  | ended _ phase polled => simp [effort, phase]
  | rested _ phase polled passing =>
      obtain ⟨rfl, rest, faults, log_eq⟩ := log_of_fault polled
      simp only [effort, phase, phase_enter, left, log_eq, faults, List.length_cons]
      simp only [PartitionLog.onward]
      omega
  | failed _ phase polled lasting => simp [effort, phase]
  | skipped _ phase polled before =>
      obtain ⟨rfl, faults, onward_eq, log_eq⟩ := log_of_message sound polled
      simp only [effort, phase, phase_enter, left, log_eq, onward_eq, List.length_cons]
      omega
  | took _ phase polled onward =>
      obtain ⟨rfl, faults, onward_eq, log_eq⟩ := log_of_message sound polled
      simp only [effort, phase, phase_enter, left, log_eq, onward_eq, List.length_cons]
      omega
  | woke _ phase due => simp [effort, phase]
  | unheard _ phase deaf => simp [effort, phase]
  | delivered _ phase heard room => simp [effort, phase]
  | stopped _ phase heard room => simp [effort, phase]

/-! ## What a fate depends on -/

section Congr

variable {place : TopicPartition}

/-- Bounds depend on the part of the partition and on its stored offset. -/
theorem resolve_congr {environment : String} (alike : Alike place broker after)
    (offset : storedOffset? stored environment place = storedOffset? store environment place)
    (span : Span) :
    resolve after stored environment place span = resolve broker store environment place span := by
  have asked (query : Broker.OffsetQuery) :
      Client.lookup after place query = Client.lookup broker place query := by
    simp only [Client.lookup, alike.lookup_eq]
  have start_eq : resolveStart after stored environment place span.start =
      resolveStart broker store environment place span.start := by
    unfold resolveStart
    simp only [asked, offset]
  have stop_eq (stop : Checkpoint) :
      resolveStop after place stop = resolveStop broker place stop := by
    cases stop <;> simp only [resolveStop, asked]
  simp only [resolve, start_eq, stop_eq]

/-- The fate of a consumer that has not begun depends on the part of its partition and on
its stored offset. -/
theorem fate_of_alike (alike : Alike consumer.place broker after)
    (offset : storedOffset? stored consumer.environment consumer.place =
      storedOffset? store consumer.environment consumer.place)
    (phase : consumer.phase = .resolving) :
    consumer.fate after stored = consumer.fate broker store := by
  simp only [fate, phase, alike.part, resolve_congr alike offset]

/-- Whether a stream that a consumer holds is one over the log of its partition. -/
def Anchored (consumer : Consumer Cursor) (broker : LogBroker) : Prop :=
  ∀ cursor, consumer.phase.stream? = some cursor → broker.locate consumer.place = .ok cursor.log

/-- What leaves a partition as it was leaves the fate of its consumer as it was. -/
theorem fate_of_same (same : Same consumer.place broker after) (anchored : consumer.Anchored broker)
    (offset : consumer.phase = .resolving →
      storedOffset? stored consumer.environment consumer.place =
        storedOffset? store consumer.environment consumer.place) :
    consumer.fate after stored = consumer.fate broker store := by
  unfold Anchored at anchored
  cases phase : consumer.phase with
  | resolving => exact fate_of_alike same.alike (offset phase) phase
  | attaching bounds => simp only [fate, phase, same.alike.part]
  | reading bounds cursor =>
      rw [phase] at anchored
      simp only [fate, phase, same.log _ (anchored cursor rfl)]
  | resting bounds cursor wake =>
      rw [phase] at anchored
      simp only [fate, phase, same.log _ (anchored cursor rfl)]
  | sending bounds cursor event isLast =>
      rw [phase] at anchored
      simp only [fate, phase, same.log _ (anchored cursor rfl)]
  | ended ending => simp only [fate, phase]

/-- It leaves its effort as it was, too. -/
theorem effort_of_same (same : Same consumer.place broker after)
    (anchored : consumer.Anchored broker) : consumer.effort after = consumer.effort broker := by
  unfold Anchored at anchored
  cases phase : consumer.phase with
  | resolving => simp only [effort, phase, same.alike.part]
  | attaching bounds => simp only [effort, phase, same.alike.part]
  | reading bounds cursor =>
      rw [phase] at anchored
      simp only [effort, phase, same.log _ (anchored cursor rfl)]
  | resting bounds cursor wake =>
      rw [phase] at anchored
      simp only [effort, phase, same.log _ (anchored cursor rfl)]
  | sending bounds cursor event isLast =>
      rw [phase] at anchored
      simp only [effort, phase, same.log _ (anchored cursor rfl)]
  | ended ending => simp only [effort, phase]

end Congr

/-- A consumer that has a stream to read, and cannot, has nothing to come. -/
theorem fate_of_waits (waits : consumer.Waits broker) : consumer.fate broker store = {} := by
  rcases waits with ⟨bounds, cursor, next, after, phase, polled⟩
  obtain ⟨given, -, -⟩ := of_poll polled
  rcases PartitionLog.read_eq_waiting_iff.mp given with ⟨faults, missing, opened⟩
  simp [fate, phase, Fate.ofLog_of_faults faults,
    PartitionLog.onward_of_messageAt?_eq_none missing, Fate.ofMessages, opened]

end Consumer

end TopicReplay
