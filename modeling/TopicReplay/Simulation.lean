import TopicReplay.Replay
import TopicReplay.Session.Limits

/-!
# Simulations

A simulation runs crews and sessions on one clock of its own. The clock moves only
when nobody has a step left, and then to the next time at which somebody has one.
Between two times a reader may receive the events of one crew, or a replay may
write them.

Every loop takes at most `patience` rounds, far more than a simulation of any use
needs.
-/

namespace TopicReplay.Simulation

open Broker (Client)
open Store (OffsetStore)

variable {β σ ρ ω : Type} [Client β σ] [OffsetStore ρ] [Writer ω]

/-- What runs in a simulation. -/
inductive Agent (σ : Type) where
  /-- A crew that nobody supervises. -/
  | lone (crew : Crew σ)
  /-- A session, whose consumers are held up by their client until the clock says
  `release`. -/
  | supervised (session : Session σ) (release : Nat)

namespace Agent

/-- The crew of an agent. -/
def getCrew : Agent σ → Crew σ
  | .lone crew => crew
  | .supervised session _ => session.crew

/-- The agent with a changed crew. -/
def mapCrew (f : Crew σ → Crew σ) : Agent σ → Agent σ
  | .lone crew => .lone (f crew)
  | .supervised session release => .supervised { session with crew := f session.crew } release

/-- A step of an agent, if it has one. -/
def step? (agent : Agent σ) (clock : Nat → Moment) (client : β) (store : ρ) (now : Nat) :
    Option (Agent σ × β) :=
  match agent with
  | .lone crew => (crew.step? client store now).map fun (crew, client) => (.lone crew, client)
  | .supervised session release =>
      let stepped :=
        if now < release then session.superviseOn? clock client now
        else session.stepOn? clock client store now
      stepped.map fun (session, client) => (.supervised session release, client)

/-- The times at which a step may become possible by itself. -/
def wakes : Agent σ → List Nat
  | .lone crew => crew.wakes
  | .supervised session release => release :: session.wakes

/-- Whether an agent has nothing more to do: no events to come, and its verdict
known if it is a session. -/
def isDone (agent : Agent σ) : Bool :=
  agent.getCrew.isDry &&
    match agent with
    | .lone _ => true
    | .supervised session _ => session.verdict?.isSome

end Agent

/-- Everything in a simulation. -/
structure World (β σ ρ : Type) where
  now : Nat := 0
  /-- What the clock of the machine shows at a time. -/
  clock : Nat → Moment := fun now => (Moment.start.later? now).getD .start
  /-- The instant that commits are stamped with. -/
  stamp : Instant
  client : β
  store : ρ
  agents : List (Agent σ) := []

namespace World

/-- The step of one agent, if it has one. -/
def stepAt? (world : World β σ ρ) (index : Nat) : Option (World β σ ρ) := do
  let agent ← world.agents[index]?
  let (agent, client) ← agent.step? world.clock world.client world.store world.now
  return { world with agents := world.agents.set index agent, client }

/-- A step of the first agent that has one. -/
def step? (world : World β σ ρ) : Option (World β σ ρ) :=
  (List.range world.agents.length).findSome? world.stepAt?

/-- The next time, up to a limit, at which a step may become possible by itself. -/
def nextWake? (world : World β σ ρ) (limit : Nat) : Option Nat :=
  ((world.agents.flatMap Agent.wakes).filter fun wake => world.now < wake && wake ≤ limit).min?

/-- The crew of an agent, if there is one. -/
def crew? (world : World β σ ρ) (index : Nat) : Option (Crew σ) :=
  world.agents[index]?.map Agent.getCrew

/-- The session of an agent, if it is one. -/
def session? (world : World β σ ρ) (index : Nat) : Option (Session σ) :=
  match world.agents[index]? with
  | some (.supervised session _) => some session
  | _ => none

/-- Changes the crew of an agent. -/
def mapCrew (world : World β σ ρ) (index : Nat) (f : Crew σ → Crew σ) : World β σ ρ :=
  { world with agents := world.agents.modify index (Agent.mapCrew f) }

/-- Changes the session of an agent. -/
def mapSession (world : World β σ ρ) (index : Nat) (f : Session σ → Session σ) : World β σ ρ :=
  { world with
    agents := world.agents.modify index fun
      | .supervised session release => .supervised (f session) release
      | other => other }

/-- Asks an agent to stop. A crew is told so at once. -/
def cancel (world : World β σ ρ) (index : Nat) : World β σ ρ :=
  { world with
    agents := world.agents.modify index fun
      | .supervised session release => .supervised session.cancel release
      | .lone crew => .lone { crew with stop := true } }

/-- Adds an agent at the end. -/
def add (world : World β σ ρ) (agent : Agent σ) : World β σ ρ :=
  { world with agents := world.agents ++ [agent] }

/-- Commits an event of a session. -/
def commit (world : World β σ ρ) (index : Nat) (place : TopicPartition) (offset : Int) :
    World β σ ρ × Except Store.Error Unit :=
  match world.session? index with
  | none => (world, .ok ())
  | some session =>
      let (session, stored) := session.commit world.store world.stamp place offset
      let world := world.mapSession index fun _ => session
      match stored with
      | .ok store => ({ world with store }, .ok ())
      | .error e => (world, .error e)

/-- Takes the reports of an agent's crew that were not taken before. -/
def takeReports (world : World β σ ρ) (index : Nat) : List PartitionError × World β σ ρ :=
  (((world.crew? index).map (·.reports)).getD [],
    world.mapCrew index fun crew => { crew with reports := [] })

end World

/-- Who receives the events of an agent. -/
structure Reader where
  /-- How many more events are received, where there is a limit. -/
  limit : Option Nat := none
  /-- Whether every event is committed at once. -/
  commits : Bool := false
  /-- Whether receiving ends as soon as the agent is done. -/
  leaves : Bool := false
  /-- The events that were received, latest first. -/
  received : List Event := []

/-- Receives an event, if there is one and the reader wants it. -/
def receive? (world : World β σ ρ) (index : Nat) (reader : Reader) :
    Option (World β σ ρ × Reader) := do
  if reader.limit = some 0 then none
  let crew ← world.crew? index
  let (event, channel) ← crew.channel.pop?
  let world := world.mapCrew index fun crew => { crew with channel }
  let world := if reader.commits then (world.commit index event.place event.offset).1 else world
  return (world, {
    reader with
    limit := reader.limit.map (· - 1)
    received := event :: reader.received })

/-- How many rounds a loop takes at most. -/
def patience : Nat := 10000000

/-- Lets everything happen up to a time, while a reader receives. -/
def runUntil (limit index : Nat) : Nat → World β σ ρ → Reader → World β σ ρ × Reader
  | 0, world, reader => (world, reader)
  | rounds + 1, world, reader =>
      match world.step? with
      | some world => runUntil limit index rounds world reader
      | none =>
          match receive? world index reader with
          | some (world, reader) => runUntil limit index rounds world reader
          | none =>
              if reader.leaves && (world.agents[index]?).any Agent.isDone then (world, reader)
              else
                match world.nextWake? limit with
                | some wake => runUntil limit index rounds { world with now := wake } reader
                | none => ({ world with now := limit }, reader)

/-- Lets everything happen for some milliseconds, while a reader receives. -/
def run (world : World β σ ρ) (index millis : Nat) (reader : Reader) : World β σ ρ × Reader :=
  runUntil (world.now + millis) index patience world reader

/-- What is to be done in a simulation at a time. -/
structure Action (β σ ρ : Type) where
  time : Nat
  act : World β σ ρ → World β σ ρ

/-- The step of a replay of an agent's session, if it has one. It ends with an error if
it waits for a session that broke down. -/
def replayStep? (world : World β σ ρ) (index : Nat) (replay : Replay ω) :
    Option (World β σ ρ × Replay ω) := do
  let session ← world.session? index
  let stepped : Option (World β σ ρ × Replay ω) := do
    let (replay, session, store) ← replay.step? session world.store world.stamp
    return ({ world.mapSession index fun _ => session with store }, replay)
  match replay.phase with
  | .awaiting =>
      match session.failure? with
      | some e => return (world, { replay with phase := .done (.error (.run e)) })
      | none => stepped
  | .receiving | .done _ => stepped

/-- Lets everything happen up to a time, while a replay writes the events of an
agent's session and actions, in the order of their times, take place. -/
def replayUntil (limit index : Nat) :
    Nat → List (Action β σ ρ) → World β σ ρ → Replay ω → World β σ ρ × Replay ω
  | 0, _, world, replay => (world, replay)
  | rounds + 1, actions, world, replay =>
      match world.step? with
      | some world => replayUntil limit index rounds actions world replay
      | none =>
          match replayStep? world index replay with
          | some (world, replay) =>
              if replay.result?.isSome then (world, replay)
              else replayUntil limit index rounds actions world replay
          | none =>
              let wake := world.nextWake? limit
              match actions with
              | action :: rest =>
                  if action.time ≤ limit && wake.all (action.time ≤ ·) then
                    replayUntil limit index rounds rest
                      (action.act { world with now := max world.now action.time }) replay
                  else
                    match wake with
                    | some wake =>
                        replayUntil limit index rounds actions { world with now := wake } replay
                    | none => (world, replay)
              | [] =>
                  match wake with
                  | some wake => replayUntil limit index rounds [] { world with now := wake } replay
                  | none => (world, replay)

end TopicReplay.Simulation
