import TopicReplay.Session.Basic

/-!
# Starting a session

A session is claimed first, which only the first caller with topics can do. Then
the partitions of all topics are listed, before any consumer is sent out, so that
an error leaves nothing running. A topic that is missing is created once, if the
settings say so, and listed again.
-/

namespace TopicReplay.Session

open Broker (Client)

variable {β σ : Type} [Client β σ]

/-- What a session is to read: selections by topic. -/
abbrev Topics := OrderedMap String Selection

/-- One partition that is to be read. -/
structure Planned where
  place : TopicPartition
  span : Span
  deriving DecidableEq, Repr

/-- Lists the partitions of a topic, which is created if it is missing. -/
def fetchPartitions (settings : Settings) (client : β) (topic : String) :
    Except Broker.Error (List Int) × β :=
  match Client.partitions client topic, settings.autoCreate with
  | .error (.topicNotFound _), some spec =>
      match Client.create client topic spec with
      | .ok client => (Client.partitions client topic, client)
      | .error e => (.error e, client)
  | listed, _ => (listed, client)

/-- The partitions of a topic that are to be read. -/
def planTopic (topic : String) (selection : Selection) (partitions : List Int) : List Planned :=
  partitions.filterMap fun partition =>
    (selection.choose partition).span?.map fun span => ⟨⟨topic, partition⟩, span⟩

/-- Plans topic after topic, up to the first error. -/
def planTopics (settings : Settings) : List (String × Selection) → β →
    Except Broker.Error (List Planned) × β
  | [], client => (.ok [], client)
  | (topic, selection) :: rest, client =>
      match fetchPartitions settings client topic with
      | (.error e, client) => (.error e, client)
      | (.ok partitions, client) =>
          let (planned, client) := planTopics settings rest client
          (planned.map (planTopic topic selection partitions ++ ·), client)

/-- Claims a session for topics. -/
def claim (session : Session σ) (topics : Topics) : Except RunError (Session σ) :=
  if topics.isEmpty then .error .noTopics
  else if session.started then .error .alreadyStarted
  else .ok { session with started := true, lifecycle := .fetchingMetadata }

/-- Closes a claimed session because listing partitions failed. -/
def fail (session : Session σ) : Session σ := { session with lifecycle := .closed }

/-- Closes a claimed session that was asked to stop. -/
def endEarly (session : Session σ) : Session σ :=
  { session with lifecycle := .closed, supervisor := .done { reason := .cancelled } }

/-- Sends out a consumer for every planned partition. -/
def launch (session : Session σ) (planned : List Planned) (now : Nat) : Session σ :=
  { session with
    lifecycle := .running
    supervisor := .watching
    crew := {
      session.crew with
      consumers := planned.map fun plan =>
        { environment := session.settings.environment, place := plan.place, span := plan.span }
      stats := session.crew.stats.touch now } }

/-- Starts a session. -/
def start (session : Session σ) (client : β) (topics : Topics) (now : Nat) :
    Except RunError Unit × Session σ × β :=
  match session.claim topics with
  | .error e => (.error e, session, client)
  | .ok session =>
      if session.cancelled then (.ok (), session.endEarly, client)
      else
        match planTopics session.settings topics.toList client with
        | (.error e, client) => (.error (.broker e), session.fail, client)
        | (.ok planned, client) => (.ok (), session.launch planned now, client)

end TopicReplay.Session
