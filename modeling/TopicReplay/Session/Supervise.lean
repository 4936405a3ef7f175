import TopicReplay.Session.Basic

/-!
# Supervising a session

The supervisor takes note of each consumer that ends. When the caller asks the
session to stop, or when it has been idle for too long, the supervisor tells the
consumers to stop and waits for them up to a deadline, after which it gives up
those that are left. When no consumer is left it closes the session and draws up
the summary.
-/

namespace TopicReplay.Session

open Broker (Client)
open Store (OffsetStore)

variable {β σ ρ : Type} [Client β σ] [OffsetStore ρ]

/-- Takes note of how the consumer of a partition ended. A failure is reported. -/
def note (session : Session σ) (place : TopicPartition) (ending : Ending) : Session σ :=
  match ending with
  | .finished t => { session with outcomes := session.outcomes.insert place (.finished t) }
  | .failed e =>
      { session with
        outcomes := session.outcomes.insert place (.failed e.message)
        crew := session.crew.report place e }
  | .crashed | .aborted => session

/-- Takes note of the next consumer that ended, if there is one. -/
def join? (session : Session σ) : Option (Session σ) :=
  match session.crew.unnoted with
  | [] => none
  | index :: rest =>
      let session := { session with crew := { session.crew with unnoted := rest } }
      match session.crew.consumers[index]? with
      | some consumer => some (session.note consumer.place (consumer.ending?.getD .aborted))
      | none => some session

/-- The summary of a session that ends for a reason. -/
def summarise (session : Session σ) (reason : Reason) : Summary where
  reason := reason
  partitions := .ofList <| session.crew.consumers.map fun consumer =>
    (consumer.place, {
      outcome := session.outcomes.getD consumer.place .aborted
      counters := session.crew.stats.counters consumer.place })

/-- Closes a session. -/
def close (session : Session σ) (reason : Reason) : Session σ :=
  { session with lifecycle := .closed, supervisor := .done (session.summarise reason) }

/-- Tells the consumers to stop. -/
def drain (session : Session σ) (reason : Reason) (now : Nat) : Session σ :=
  { session with
    lifecycle := .draining
    crew := { session.crew with stop := true }
    supervisor := .draining reason (now + session.settings.drainTimeout) }

/-- When the session has been idle for too long. -/
def idleDeadline? (session : Session σ) : Option Nat :=
  session.settings.idleTimeout.map fun timeout => session.crew.stats.lastActivity + timeout

/-- Whether the session has been idle for too long. -/
def isIdle (session : Session σ) (now : Nat) : Bool := session.idleDeadline?.any (· ≤ now)

/-- The step of a supervisor that watches. -/
def watch? (session : Session σ) (now : Nat) : Option (Session σ) :=
  if session.crew.isSettled then some (session.close .completed)
  else
    match session.join? with
    | some session => some session
    | none =>
        if session.cancelled then some (session.drain .cancelled now)
        else if session.isIdle now then some (session.drain .idleTimeout now)
        else none

/-- The step of the supervisor, if it has one. -/
def supervise? (session : Session σ) (client : β) (now : Nat) : Option (Session σ × β) :=
  match session.supervisor with
  | .absent | .done _ => none
  | .watching => (session.watch? now).map fun session => (session, client)
  | .draining reason deadline =>
      if session.crew.isSettled then some (session.close reason, client)
      else
        match session.join? with
        | some session => some (session, client)
        | none =>
            if deadline ≤ now then
              let (crew, client) := session.crew.abort client
              some (close { session with crew } reason, client)
            else none

/-- The step of one consumer, if it has one. -/
def workAt? (session : Session σ) (client : β) (store : ρ) (now index : Nat) :
    Option (Session σ × β) :=
  (session.crew.stepAt? client store now index).map fun (crew, client) =>
    ({ session with crew }, client)

/-- The times at which a step may become possible by itself. -/
def wakes (session : Session σ) : List Nat :=
  session.crew.wakes ++
    match session.supervisor with
    | .watching => session.idleDeadline?.toList
    | .draining _ deadline => [deadline]
    | .absent | .done _ => []

end TopicReplay.Session
