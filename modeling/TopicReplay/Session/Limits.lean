import TopicReplay.Session.Start
import TopicReplay.Session.Supervise
import TopicReplay.Time.Moment

/-!
# What a session asks of its runtime

A session gets its channel from a runtime, which makes none without room and none with
more room than it can count. The supervisor sets its deadlines on a clock, which has no
moment beyond its last one. A session that asks for more does not fail with an error:
the start of it breaks down before any consumer is sent out, or the supervisor does,
and then the consumers are given up and whoever waits for the session is told so.
-/

namespace TopicReplay

/-- Why a runtime cannot go on. -/
inductive Breakdown where
  | noRoom
  | tooMuchRoom
  | noSuchMoment
  deriving DecidableEq, Repr

/-- The text of a breakdown. -/
def Breakdown.text : Breakdown → String
  | .noRoom => "mpsc bounded channel requires buffer > 0"
  | .tooMuchRoom =>
      "a semaphore may not have more than MAX_PERMITS permits (2305843009213693951)"
  | .noSuchMoment => "overflow when adding duration to instant"

/-- The most events that a channel can be made for: an eighth of what 64 bits count. -/
def Channel.greatest : Nat := 2305843009213693951

/-- What keeps a runtime from making a channel. -/
def Channel.breakdown? (capacity : Nat) : Option Breakdown :=
  if capacity = 0 then some .noRoom
  else if greatest < capacity then some .tooMuchRoom
  else none

namespace Session

open Broker (Client)
open Store (OffsetStore)

variable {β σ ρ : Type} [Client β σ] [OffsetStore ρ]

/-- Starts a session on a runtime, which makes the channel once all partitions were
listed. A session that ends early needs none. -/
def begin (session : Session σ) (client : β) (topics : Topics) (now : Nat) :
    Except Breakdown (Except RunError Unit × Session σ × β) :=
  match session.start client topics now with
  | (.ok (), started, client) =>
      match started.supervisor, Channel.breakdown? session.settings.capacity with
      | .watching, some breakdown => .error breakdown
      | _, _ => .ok (.ok (), started, client)
  | refused => .ok refused

/-- Gives up the consumers of a session together with its supervisor. -/
def breakDown (session : Session σ) (client : β) : Session σ × β :=
  let (crew, client) := session.crew.abort client
  ({ session with crew, supervisor := .absent }, client)

/-- Whether the supervisor of a session broke down. -/
def isBroken (session : Session σ) : Bool :=
  session.supervisor = .absent && (session.lifecycle = .running || session.lifecycle = .draining)

/-- Whether the clock has the moment at which the session has been idle for too long. -/
def canIdle (session : Session σ) (clock : Nat → Moment) : Bool :=
  session.settings.idleTimeout.all fun timeout =>
    ((clock session.crew.stats.lastActivity).later? timeout).isSome

/-- Whether the clock has the moment up to which consumers may take to stop. -/
def canDrain (session : Session σ) (clock : Nat → Moment) (now : Nat) : Bool :=
  ((clock now).later? session.settings.drainTimeout).isSome

/-- The step of the supervisor on a clock, if it has one. It breaks down where it sets
a deadline that the clock does not have. -/
def superviseOn? (session : Session σ) (clock : Nat → Moment) (client : β) (now : Nat) :
    Option (Session σ × β) :=
  match session.supervisor with
  | .watching =>
      if !session.crew.isSettled && !session.canIdle clock then some (session.breakDown client)
      else
        match session.supervise? client now with
        | some (after, client) =>
            if after.lifecycle = .draining && !after.canDrain clock now then
              some (after.breakDown client)
            else some (after, client)
        | none => none
  | _ => session.supervise? client now

/-- A step of the session: of the first consumer that has one, or else of the supervisor. -/
def stepOn? (session : Session σ) (clock : Nat → Moment) (client : β) (store : ρ) (now : Nat) :
    Option (Session σ × β) :=
  match session.crew.step? client store now with
  | some (crew, client) => some ({ session with crew }, client)
  | none => session.superviseOn? clock client now

/-- What those are told who wait for a session that broke down. -/
def failure? (session : Session σ) : Option RunError :=
  if session.isBroken then
    some (.supervisor ("supervisor task failed: " ++ Breakdown.noSuchMoment.text))
  else none

/-- What those are told who wait for a session, once it has ended or broken down. -/
def verdict? (session : Session σ) : Option (Except RunError Summary) :=
  match session.summary? with
  | some summary => some (.ok summary)
  | none => session.failure?.map .error

end Session

end TopicReplay
