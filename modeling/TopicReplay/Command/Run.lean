import TopicReplay.Arguments.Usage
import TopicReplay.Command.Options
import TopicReplay.Disk
import TopicReplay.Lag
import TopicReplay.Simulation
import TopicReplay.Store.Memory
import TopicReplay.Text.Colours

/-!
# Running the program

The program reads its command line, loads the configuration, lets the options of
the command line set what they set in it, and does its task. What it prints goes to
two places: events and listings to one, and all else to the other. Its code is zero
if it succeeded, one if it failed, two if the command line is wrong, and a hundred and
one if it broke down.

The selections of topics are built before the client is made, and the client before
the store is opened. Where offsets are listed, the store is opened first, and the
client is made only if it is needed.
-/

namespace TopicReplay.Command

open Broker (Client)
open Store (OffsetStore TreeStore MemoryStore)
open Text (Style)

/-- The name of the program. -/
def programName : String := "kreplay"

/-- The version of the program. -/
def programVersion : String := "0.1.0"

/-- The variable that may name the configuration file. -/
def configVariable : String := "KREPLAY_CONFIG"

/-- The usage of the program. -/
def usage : String :=
  "Usage:\n" ++ String.join (((grammar none).usageLines [programName]).map fun line =>
    "  " ++ line ++ "\n")

/-- The completions of the program for a shell. -/
def completions (shell : String) : String :=
  Arguments.completionScript shell programName (grammar none).words

/-- What surrounds a run of the program. -/
structure Surroundings where
  environment : Config.Environment
  /-- Whether the output is a terminal. -/
  terminal : Bool := false
  /-- The instant that commits are stamped with. -/
  stamp : Instant
  /-- What the clock of the machine shows so many milliseconds after the start. -/
  clock : Nat → Moment := fun now => (Moment.start.later? now).getD .start
  /-- After how many milliseconds the user interrupts. -/
  interrupt : Nat := 100000000

/-- Whether the program shows colours. -/
def Surroundings.coloured (around : Surroundings) : Bool :=
  Text.showsColours around.environment around.terminal

/-- What a run of the program comes to. -/
structure Outcome where
  code : Nat := 0
  /-- The events and listings that were printed. -/
  output : String := ""
  /-- All else that was printed. -/
  notes : String := ""
  deriving DecidableEq, Repr

/-- What a task comes to. -/
structure Report where
  output : String := ""
  notes : String := ""
  result : Except Error Unit := .ok ()
  /-- What the program breaks down with, if it does. -/
  breakdown : Option Breakdown := none

/-- The report of a task that failed before it printed anything. -/
def Report.failed (e : Error) : Report := { result := .error e }

/-- The outcome of a failure behind what was already printed. -/
def Outcome.failed (around : Surroundings) (output notes text : String) : Outcome where
  code := 1
  output := output
  notes := notes ++ Style.boldRed.apply around.coloured "Error:" ++ " " ++ text ++ "\n"

/-- The outcome of a report. -/
def Report.outcome (around : Surroundings) (report : Report) : Outcome :=
  match report.breakdown, report.result with
  | some breakdown, _ =>
      { code := 101, output := report.output, notes := report.notes ++ breakdown.text ++ "\n" }
  | none, .ok () => { output := report.output, notes := report.notes }
  | none, .error e => .failed around report.output report.notes e.chain

/-! ## Consuming -/

/-- The line on the end of a session. -/
def doneLine (coloured : Bool) (summary : Summary) : String :=
  Style.boldGreen.apply coloured "Done:" ++ " " ++ Text.decimalString summary.total ++
    " event(s) from " ++ Text.decimalString summary.partitions.size ++ " partition(s) (" ++
    summary.reason.text ++ ")\n"

/-- The line on a partition that failed. -/
def failureLine (coloured : Bool) (place : TopicPartition) (reason : String) : String :=
  "  " ++ Style.red.apply coloured "✗" ++ " " ++ place.display ++ ": " ++ reason ++ "\n"

/-- The lines on the end of a session. -/
def summaryText (coloured : Bool) (summary : Summary) : String :=
  doneLine coloured summary ++
    String.join (summary.partitions.toList.filterMap fun (place, partition) =>
      match partition.outcome with
      | .failed reason => some (failureLine coloured place reason)
      | _ => none)

/-- A session that ended has failed if one of its partitions did. -/
def checkSummary (summary : Summary) : Except Error Unit :=
  if summary.failures = 0 then .ok ()
  else .error (.failed (Text.decimalString summary.failures ++ " partition(s) failed"))

section

variable {β σ ρ : Type} [Client β σ] [OffsetStore ρ]

/-- Writes the events of a session that was started, until it ends or is interrupted. -/
def replaySession (around : Surroundings) (format : OutputFormat) (commits : Bool)
    (session : Session σ) (client : β) (store : ρ) : Replay LineWriter × ρ :=
  let world : Simulation.World β σ ρ :=
    { clock := around.clock, stamp := around.stamp, client, store,
      agents := [.supervised session 0] }
  let interrupt : Simulation.Action β σ ρ := ⟨around.interrupt, fun world => world.cancel 0⟩
  let (world, replay) :=
    Simulation.replayUntil (around.interrupt + session.settings.drainTimeout + 1) 0
      Simulation.patience [interrupt] world { format, commits, writer := ({} : LineWriter) }
  (replay, world.store)

/-- The report of a replay. -/
def replayReport (coloured : Bool) (replay : Replay LineWriter) : Report :=
  let output := replay.writer.text
  match replay.result? with
  | some (.ok summary) =>
      { output, notes := summaryText coloured summary, result := checkSummary summary }
  | some (.error e) => { output, result := .error e }
  | none => { output, result := .error (.failed "interrupted") }

/-- Consumes topics with a client and a store. -/
def Consume.run (options : Consume) (around : Surroundings) (config : Config)
    (format : OutputFormat) (topics : Session.Topics) (client : β) (store : ρ) : Report × ρ :=
  let session : Session σ := Session.new config.sessionSettings 0
  match session.begin client topics 0 with
  | .error breakdown => ({ breakdown }, store)
  | .ok (.error e, _, _) => (.failed (.run e), store)
  | .ok (.ok (), session, client) =>
      let (replay, store) :=
        replaySession around format (!options.noCommit) session client store
      (replayReport around.coloured replay, store)

end

/-! ## Tasks -/

/-- How a client is made of the properties of a connection. -/
abbrev Connect (β : Type) := Config.Connection → Except Broker.Error β

variable {β σ : Type} [Client β σ] {m : Type → Type} [Monad m]

/-- Consumes topics. -/
def Consume.perform (files : Files m) (connect : Connect β) (around : Surroundings)
    (config : Config) (format : OutputFormat) (options : Consume) : m Report := do
  match options.selections with
  | .error e => return .failed (.checkpoint e)
  | .ok topics =>
      match connect config.kafka with
      | .error e => return .failed (.broker e)
      | .ok client =>
          if options.noStore then
            return (options.run around config format topics client ({} : MemoryStore)).1
          else
            match ← files.openStore config.store.path with
            | .error e => return .failed (.store e)
            | .ok store =>
                let (report, store) := options.run around config format topics client store
                files.saveStore config.store.path store
                return report

/-- The text of a listing of offsets. -/
def Offsets.listing (connect : Connect β) (coloured : Bool) (config : Config)
    (format : OutputFormat) (store : TreeStore) (environment topic : Option String)
    (lag : Bool) : Except Error String := do
  let filter ← (Store.Filter.ofPatterns environment topic).mapError .store
  let client ← if lag then ((connect config.kafka).map some).mapError .broker else .ok none
  let rows ← (listOffsets store filter client).mapError .store
  return Store.Listing.text format coloured rows

/-- The line on what was deleted. -/
def deletedLine (coloured : Bool) (environment : String) (topic : Option String)
    (removed : Nat) : String :=
  let scope :=
    match topic with
    | some topic => topic ++ " in " ++ environment
    | none => environment
  if removed = 0 then
    Style.yellow.apply coloured "Note:" ++ " nothing stored for " ++ scope ++ "\n"
  else
    Style.green.apply coloured "✓" ++ " deleted " ++ Text.decimalString removed ++
      " topic record(s) for " ++ scope ++ "\n"

/-- Works on stored offsets. -/
def Offsets.perform (files : Files m) (connect : Connect β) (around : Surroundings)
    (config : Config) (format : OutputFormat) (options : Offsets) : m Report := do
  match ← files.openStore config.store.path with
  | .error e => return .failed (.store e)
  | .ok store =>
      match options with
      | .list environment topic lag =>
          let text :=
            Offsets.listing connect around.coloured config format store environment topic lag
          match text with
          | .ok text => return { output := text ++ "\n" }
          | .error e => return .failed e
      | .delete environment topic =>
          let (removed, store) := store.delete environment topic
          files.saveStore config.store.path store
          return { notes := deletedLine around.coloured environment topic removed }

/-! ## The whole program -/

/-- A configuration with what an invocation sets in it. -/
def Invocation.override (invocation : Invocation) (config : Config) : Config :=
  let config :=
    { config with
      kafka := {
        config.kafka with brokers := invocation.brokers.getD config.kafka.brokers } }
  match invocation.task with
  | .consume options => options.override config
  | _ => config

/-- Does a task under a configuration that was loaded. -/
def Invocation.perform (files : Files m) (connect : Connect β) (around : Surroundings)
    (invocation : Invocation) (config : Config) : m Outcome := do
  let config := invocation.override config
  match config.validate with
  | .error e => return .failed around "" "" e.message
  | .ok () =>
      match invocation.task with
      | .consume options =>
          return (← options.perform files connect around config invocation.format).outcome around
      | .offsets options =>
          return (← options.perform files connect around config invocation.format).outcome around
      | .completions shell => return { output := completions shell }

/-- Does what an invocation asks for. Completions need no configuration. -/
def Invocation.run (files : Files m) (connect : Connect β) (around : Surroundings)
    (invocation : Invocation) : m Outcome := do
  match invocation.task with
  | .completions shell => return { output := completions shell }
  | _ =>
      let file ←
        match invocation.config with
        | some path => do pure (some (path, ← files.entry path))
        | none => pure none
      match Config.load around.environment file with
      | .error e =>
          return .failed around "" "" ("failed to load configuration: " ++ e.message)
      | .ok config => invocation.perform files connect around config

/-- The outcome of a command line that is no invocation. -/
def faultOutcome (fault : Arguments.Fault) : Outcome :=
  match fault with
  | .help => { output := usage }
  | .version => { output := programName ++ " " ++ programVersion ++ "\n" }
  | fault => { code := 2, notes := "error: " ++ fault.text ++ "\n\n" ++ usage }

/-- Runs the program. -/
def run (files : Files m) (connect : Connect β) (around : Surroundings) (args : List String) :
    m Outcome :=
  match Invocation.parse (around.environment.lookup configVariable) args with
  | .error fault => return faultOutcome fault
  | .ok invocation => invocation.run files connect around

end TopicReplay.Command
