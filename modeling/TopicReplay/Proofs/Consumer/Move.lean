import TopicReplay.Consumer.Step

/-!
# Moves of a consumer

The step of a consumer as a relation, with one constructor for everything that a consumer
can do. What holds after every step is proved by cases on the move, without opening the
step again. `move_iff` says that the relation and the step are the same.
-/

namespace TopicReplay.Consumer

open Broker (Client Reading)
open Store (OffsetStore)

/-- The events that a step gives off. -/
def Emission.events : Emission → List Event
  | .delivery event => [event]
  | .none | .report _ => []

/-- The errors that a step reports. -/
def Emission.reports : Emission → List RunError
  | .report e => [e]
  | .none | .delivery _ => []

@[simp]
theorem events_none : Emission.none.events = [] := rfl

@[simp]
theorem events_report (e : RunError) : (Emission.report e).events = [] := rfl

@[simp]
theorem events_delivery (event : Event) : (Emission.delivery event).events = [event] := rfl

@[simp]
theorem reports_none : Emission.none.reports = [] := rfl

@[simp]
theorem reports_report (e : RunError) : (Emission.report e).reports = [e] := rfl

@[simp]
theorem reports_delivery (event : Event) : (Emission.delivery event).reports = [] := rfl

variable {β σ ρ : Type} [Client β σ] [OffsetStore ρ]

/-- What a consumer does in one step. -/
inductive Move (around : Surroundings β ρ) (consumer : Consumer σ) : Outcome β σ → Prop where
  /-- It was told to stop. -/
  | cancelled (going : consumer.ending? = none) (told : around.stop = true) :
      Move around consumer (consumer.finish around.client (.finished .cancelled))
  | resolved {bounds : Bounds} (untold : around.stop = false) (phase : consumer.phase = .resolving)
      (resolves : resolve around.client around.store consumer.environment consumer.place
        consumer.span = .value bounds) (open_ : bounds.areCrossed = false) :
      Move around consumer
        { consumer := consumer.enter (.attaching bounds), client := around.client }
  /-- Its stop bound lies before its start. -/
  | crossed {bounds : Bounds} (untold : around.stop = false) (phase : consumer.phase = .resolving)
      (resolves : resolve around.client around.store consumer.environment consumer.place
        consumer.span = .value bounds) (crossed : bounds.areCrossed = true) :
      Move around consumer (consumer.finish around.client (.finished .stopped))
  | unresolved {e : RunError} (untold : around.stop = false) (phase : consumer.phase = .resolving)
      (resolves : resolve around.client around.store consumer.environment consumer.place
        consumer.span = .error e) :
      Move around consumer (consumer.finish around.client (.failed e))
  | crashed (untold : around.stop = false) (phase : consumer.phase = .resolving)
      (resolves : resolve around.client around.store consumer.environment consumer.place
        consumer.span = .breakdown) :
      Move around consumer (consumer.finish around.client .crashed)
  | attached {bounds : Bounds} {stream : σ} {client : β} (untold : around.stop = false)
      (phase : consumer.phase = .attaching bounds)
      (attaches : Client.attach around.client consumer.place bounds.start = .ok (stream, client)) :
      Move around consumer { consumer := consumer.enter (.reading bounds stream), client }
  | unattached {bounds : Bounds} {e : Broker.Error} (untold : around.stop = false)
      (phase : consumer.phase = .attaching bounds)
      (attaches : Client.attach around.client consumer.place bounds.start = .error e) :
      Move around consumer (consumer.finish around.client (.failed (.broker e)))
  | ended {bounds : Bounds} {stream next : σ} {client : β} (untold : around.stop = false)
      (phase : consumer.phase = .reading bounds stream)
      (polled : Client.poll around.client stream = (.ended, next, client)) :
      Move around consumer
        ((consumer.enter (.reading bounds next)).finish client (.finished .streamEnded))
  /-- It met an error that may pass. -/
  | rested {bounds : Bounds} {stream next : σ} {client : β} {e : Broker.Error}
      (untold : around.stop = false) (phase : consumer.phase = .reading bounds stream)
      (polled : Client.poll around.client stream = (.fault e, next, client))
      (passing : e.isRetryable = true) :
      Move around consumer {
        consumer := consumer.enter (.resting bounds next (around.now + restTime))
        client
        emission := .report (.broker e) }
  | failed {bounds : Bounds} {stream next : σ} {client : β} {e : Broker.Error}
      (untold : around.stop = false) (phase : consumer.phase = .reading bounds stream)
      (polled : Client.poll around.client stream = (.fault e, next, client))
      (lasting : e.isRetryable = false) :
      Move around consumer
        ((consumer.enter (.reading bounds next)).finish client (.failed (.broker e)))
  /-- It passed over a message before its start. -/
  | skipped {bounds : Bounds} {stream next : σ} {client : β} {m : Message}
      (untold : around.stop = false) (phase : consumer.phase = .reading bounds stream)
      (polled : Client.poll around.client stream = (.message m, next, client))
      (before : m.offset < bounds.start) :
      Move around consumer { consumer := consumer.enter (.reading bounds next), client }
  | took {bounds : Bounds} {stream next : σ} {client : β} {m : Message}
      (untold : around.stop = false) (phase : consumer.phase = .reading bounds stream)
      (polled : Client.poll around.client stream = (.message m, next, client))
      (onward : bounds.start ≤ m.offset) :
      Move around consumer {
        consumer := consumer.enter
          (.sending bounds next (m.toEvent consumer.place) (bounds.endAt m))
        client }
  | woke {bounds : Bounds} {stream : σ} {wake : Nat} (untold : around.stop = false)
      (phase : consumer.phase = .resting bounds stream wake) (due : wake ≤ around.now) :
      Move around consumer
        { consumer := consumer.enter (.reading bounds stream), client := around.client }
  /-- There was no receiver. -/
  | unheard {bounds : Bounds} {stream : σ} {event : Event} {isLast : Bool}
      (untold : around.stop = false) (phase : consumer.phase = .sending bounds stream event isLast)
      (deaf : around.channel.receiving = false) :
      Move around consumer (consumer.finish around.client (.finished .cancelled))
  | delivered {bounds : Bounds} {stream : σ} {event : Event} (untold : around.stop = false)
      (phase : consumer.phase = .sending bounds stream event false)
      (heard : around.channel.receiving = true) (room : around.channel.hasRoom = true) :
      Move around consumer {
        consumer := consumer.enter (.reading bounds stream)
        client := around.client
        emission := .delivery event }
  /-- It delivered the event that reaches its stop bound. -/
  | stopped {bounds : Bounds} {stream : σ} {event : Event} (untold : around.stop = false)
      (phase : consumer.phase = .sending bounds stream event true)
      (heard : around.channel.receiving = true) (room : around.channel.hasRoom = true) :
      Move around consumer
        { consumer.finish around.client (.finished .stopped) with emission := .delivery event }

variable {around : Surroundings β ρ} {consumer : Consumer σ} {outcome : Outcome β σ}

theorem ending?_eq_none_iff :
    consumer.ending? = none ↔ ∀ ending, consumer.phase ≠ .ended ending := by
  unfold ending?
  cases consumer.phase <;> simp

theorem phase_of_ending? {ending : Ending} (ended : consumer.ending? = some ending) :
    consumer.phase = .ended ending := by
  unfold ending? at ended
  split at ended
  · rename_i phase
    rw [phase, Option.some.inj ended]
  · cases ended

theorem move_stepResolving (untold : around.stop = false) (phase : consumer.phase = .resolving) :
    Move around consumer (consumer.stepResolving around.client around.store) := by
  unfold stepResolving
  split
  · rename_i bounds resolves
    split
    · rename_i crossed
      exact .crossed untold phase resolves crossed
    · rename_i open_
      exact .resolved untold phase resolves (Bool.eq_false_iff.mpr open_)
  · rename_i e resolves
    exact .unresolved untold phase resolves
  · rename_i resolves
    exact .crashed untold phase resolves

theorem move_stepAttaching {bounds : Bounds} (untold : around.stop = false)
    (phase : consumer.phase = .attaching bounds) :
    Move around consumer (consumer.stepAttaching around.client bounds) := by
  unfold stepAttaching
  split
  · rename_i attaches
    exact .attached untold phase attaches
  · rename_i attaches
    exact .unattached untold phase attaches

theorem move_of_stepReading {bounds : Bounds} {stream : σ} (untold : around.stop = false)
    (phase : consumer.phase = .reading bounds stream)
    (stepped : consumer.stepReading around.client around.now bounds stream = some outcome) :
    Move around consumer outcome := by
  unfold stepReading at stepped
  rcases polled : Client.poll around.client stream with ⟨reading, next, client⟩
  rw [polled] at stepped
  cases reading with
  | waiting => cases stepped
  | ended =>
      cases stepped
      exact .ended untold phase polled
  | fault e =>
      simp only at stepped
      split at stepped
      · rename_i passing
        cases stepped
        exact .rested untold phase polled passing
      · rename_i lasting
        cases stepped
        exact .failed untold phase polled (Bool.eq_false_iff.mpr lasting)
  | message m =>
      simp only at stepped
      split at stepped
      · rename_i before
        cases stepped
        exact .skipped untold phase polled before
      · rename_i onward
        cases stepped
        exact .took untold phase polled (Int.not_lt.mp onward)

theorem move_of_stepSending {bounds : Bounds} {stream : σ} {event : Event} {isLast : Bool}
    (untold : around.stop = false) (phase : consumer.phase = .sending bounds stream event isLast)
    (stepped : consumer.stepSending around.client around.channel bounds stream event isLast =
      some outcome) :
    Move around consumer outcome := by
  unfold stepSending at stepped
  split at stepped
  · rename_i deaf
    cases stepped
    exact .unheard untold phase (by simpa using deaf)
  · rename_i heard
    have heard : around.channel.receiving = true := by simpa using heard
    split at stepped
    · cases stepped
    · rename_i room
      have room : around.channel.hasRoom = true := by simpa using room
      cases isLast with
      | true =>
          cases stepped
          exact .stopped untold phase heard room
      | false =>
          cases stepped
          exact .delivered untold phase heard room

theorem move_of_step? (stepped : consumer.step? around = some outcome) :
    Move around consumer outcome := by
  unfold step? at stepped
  split at stepped
  · cases stepped
  · rename_i going
    split at stepped
    · rename_i told
      cases stepped
      exact .cancelled (ending?_eq_none_iff.mpr going) told
    · rename_i untold
      have untold := Bool.eq_false_iff.mpr untold
      split at stepped
      · rename_i phase
        cases stepped
        exact move_stepResolving untold phase
      · rename_i phase
        cases stepped
        exact move_stepAttaching untold phase
      · rename_i phase
        exact move_of_stepReading untold phase stepped
      · rename_i phase
        split at stepped
        · rename_i due
          cases stepped
          exact .woke untold phase due
        · cases stepped
      · rename_i phase
        exact move_of_stepSending untold phase stepped
      · rename_i ending phase
        exact absurd phase (going ending)

theorem step?_of_move (move : Move around consumer outcome) :
    consumer.step? around = some outcome := by
  cases move with
  | cancelled going told =>
      have unended := ending?_eq_none_iff.mp going
      unfold step?
      cases phase : consumer.phase with
      | ended ending => exact absurd phase (unended ending)
      | _ => simp [told]
  | resolved untold phase resolves open_ =>
      simp [step?, phase, untold, stepResolving, resolves, open_]
  | crossed untold phase resolves crossed =>
      simp [step?, phase, untold, stepResolving, resolves, crossed]
  | unresolved untold phase resolves => simp [step?, phase, untold, stepResolving, resolves]
  | crashed untold phase resolves => simp [step?, phase, untold, stepResolving, resolves]
  | attached untold phase attaches => simp [step?, phase, untold, stepAttaching, attaches]
  | unattached untold phase attaches => simp [step?, phase, untold, stepAttaching, attaches]
  | ended untold phase polled => simp [step?, phase, untold, stepReading, polled]
  | rested untold phase polled passing =>
      simp [step?, phase, untold, stepReading, polled, passing, enter]
  | failed untold phase polled lasting =>
      simp [step?, phase, untold, stepReading, polled, lasting]
  | skipped untold phase polled before =>
      simp [step?, phase, untold, stepReading, polled, before]
  | took untold phase polled onward =>
      simp [step?, phase, untold, stepReading, polled, Int.not_lt.mpr onward, enter]
  | woke untold phase due => simp [step?, phase, untold, due]
  | unheard untold phase deaf => simp [step?, phase, untold, stepSending, deaf]
  | delivered untold phase heard room =>
      simp [step?, phase, untold, stepSending, heard, room]
  | stopped untold phase heard room => simp [step?, phase, untold, stepSending, heard, room]

/-- A consumer has exactly the steps that are moves. -/
theorem move_iff : consumer.step? around = some outcome ↔ Move around consumer outcome :=
  ⟨move_of_step?, step?_of_move⟩

@[simp]
theorem place_enter (phase : Phase σ) : (consumer.enter phase).place = consumer.place := rfl

@[simp]
theorem environment_enter (phase : Phase σ) :
    (consumer.enter phase).environment = consumer.environment := rfl

@[simp]
theorem span_enter (phase : Phase σ) : (consumer.enter phase).span = consumer.span := rfl

@[simp]
theorem phase_enter (phase : Phase σ) : (consumer.enter phase).phase = phase := rfl

@[simp]
theorem consumer_finish (client : β) (ending : Ending) :
    (consumer.finish client ending).consumer = consumer.enter (.ended ending) := rfl

@[simp]
theorem emission_finish (client : β) (ending : Ending) :
    (consumer.finish client ending).emission = .none := rfl

@[simp]
theorem ending?_ended (ending : Ending) :
    (consumer.enter (.ended ending)).ending? = some ending := rfl

/-- A step changes nothing but the phase of a consumer. -/
theorem Move.consumer_eq (move : Move around consumer outcome) :
    ∃ phase, outcome.consumer = consumer.enter phase := by
  cases move <;> exact ⟨_, rfl⟩

theorem Move.place_eq (move : Move around consumer outcome) :
    outcome.consumer.place = consumer.place := by
  rcases move.consumer_eq with ⟨phase, consumer_eq⟩
  rw [consumer_eq, place_enter]

/-- A consumer that ended has no step. -/
theorem Move.going (move : Move around consumer outcome) : consumer.ending? = none := by
  cases move with
  | cancelled going told => exact going
  | _ => simp_all [ending?]

/-- What every release keeps is kept when a consumer ends. -/
theorem of_finish {P : β → Prop} {client : β} (ending : Ending)
    (release : ∀ {client} (stream), P client → P (Client.release client stream))
    (before : P client) : P (consumer.finish client ending).client := by
  unfold finish
  split
  · exact release _ before
  · exact before

/-- A step does nothing to a broker but open, read and give up a stream. -/
theorem Move.of_client (move : Move around consumer outcome) {P : β → Prop}
    (attach : ∀ {start stream client},
      Client.attach around.client consumer.place start = .ok (stream, client) → P client)
    (poll : ∀ {stream reading next client}, consumer.phase.stream? = some stream →
      Client.poll around.client stream = (reading, next, client) → P client)
    (release : ∀ {client} (stream), P client → P (Client.release client stream))
    (before : P around.client) : P outcome.client := by
  have finish {consumer : Consumer σ} {client : β} (ending : Ending) (kept : P client) :
      P (consumer.finish client ending).client :=
    of_finish ending release kept
  have stream? {bounds : Bounds} {stream : σ} (phase : consumer.phase = .reading bounds stream) :
      consumer.phase.stream? = some stream := by
    rw [phase]
    rfl
  cases move with
  | cancelled going told => exact finish _ before
  | resolved untold phase resolves open_ => exact before
  | crossed untold phase resolves crossed => exact finish _ before
  | unresolved untold phase resolves => exact finish _ before
  | crashed untold phase resolves => exact finish _ before
  | attached untold phase attaches => exact attach attaches
  | unattached untold phase attaches => exact finish _ before
  | ended untold phase polled => exact finish _ (poll (stream? phase) polled)
  | rested untold phase polled passing => exact poll (stream? phase) polled
  | failed untold phase polled lasting => exact finish _ (poll (stream? phase) polled)
  | skipped untold phase polled before => exact poll (stream? phase) polled
  | took untold phase polled onward => exact poll (stream? phase) polled
  | woke untold phase due => exact before
  | unheard untold phase deaf => exact finish _ before
  | delivered untold phase heard room => exact before
  | stopped untold phase heard room => exact finish (.finished .stopped) before

end TopicReplay.Consumer
