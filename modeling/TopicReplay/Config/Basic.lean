import TopicReplay.Config.Error
import TopicReplay.Json.Value
import TopicReplay.Session.Basic
import TopicReplay.Text.Blank

/-!
# Configurations

A configuration says how the broker is reached, where offsets are stored, how
topics are consumed and what is logged. Every setting has a default. Some values
can be read but not used, and `Config.validate` refuses them, the first one that
it meets.
-/

namespace TopicReplay

namespace Config

/-- How the broker is reached. -/
structure Connection where
  /-- The addresses to start from, with commas between them. -/
  brokers : String := "localhost:9092"
  /-- The name that the client gives itself. -/
  clientId : String := "kreplay"
  /-- How many milliseconds a question about topics and offsets may take. -/
  metadataTimeout : Nat := 10000
  /-- Further properties of the client. -/
  extra : OrderedMap String String := .empty
  deriving DecidableEq, Repr

/-- Where offsets are stored. -/
structure Storage where
  path : String
  deriving DecidableEq, Repr

/-- What missing topics are created like. -/
structure AutoCreate where
  enabled : Bool := false
  partitions : Int := 1
  replication : Int := 1
  deriving DecidableEq, Repr

/-- How topics are consumed. -/
structure Consumption where
  environment : String := "default"
  /-- After how many seconds without an event a run ends, if it does. -/
  idleTimeout : Option Nat := none
  /-- How many milliseconds consumers have to stop. -/
  drainTimeout : Nat := 5000
  /-- How many events the channel holds. -/
  capacity : Nat := 1024
  autoCreate : AutoCreate := {}
  deriving DecidableEq, Repr

/-- What is logged. -/
structure Logging where
  level : String := "warn"
  json : Bool := false
  deriving DecidableEq, Repr

/-- A path with another one below it. -/
def pathBelow (base path : String) : String :=
  if base.isEmpty || base.endsWith "/" then base ++ path else base ++ "/" ++ path

/-- Where offsets are stored if nothing else is said: below the home directory, or
below the working directory where there is none. -/
def defaultStorePath (home : Option String) : String :=
  pathBelow (home.getD "") ".kreplay/offsets"

/-- What keeps a configuration from being used. -/
inductive Problem where
  | noBrokers
  | noEnvironment
  | noCapacity
  | noIdleTime
  | nothingToCreate
  deriving DecidableEq, Repr

/-- The text of a problem. -/
def Problem.text : Problem → String
  | .noBrokers => "at least one broker address is required"
  | .noEnvironment => "environment name must not be empty"
  | .noCapacity => "consumer.channel_capacity must be greater than 0"
  | .noIdleTime => "consumer.idle_timeout_secs must be greater than 0 when set"
  | .nothingToCreate => "auto_create partitions and replication_factor must be positive"

end Config

/-- A configuration. -/
structure Config where
  kafka : Config.Connection := {}
  store : Config.Storage
  consumer : Config.Consumption := {}
  logging : Config.Logging := {}
  deriving DecidableEq, Repr

namespace Config

/-- The configuration in which nothing was set, with the home directory given. -/
def initial (home : Option String) : Config where
  store := ⟨defaultStorePath home⟩

/-- The problems of a configuration, in the order in which they are looked for. -/
def problems (config : Config) : List Problem :=
  [(Problem.noBrokers, (Text.trimString config.kafka.brokers).isEmpty),
    (.noEnvironment, (Text.trimString config.consumer.environment).isEmpty),
    (.noCapacity, config.consumer.capacity == 0),
    (.noIdleTime, config.consumer.idleTimeout == some 0),
    (.nothingToCreate,
      config.consumer.autoCreate.partitions ≤ 0 || config.consumer.autoCreate.replication ≤ 0)]
  |>.filterMap fun (problem, found) => if found then some problem else none

/-- Refuses a configuration that cannot be used, with the first of its problems. -/
def validate (config : Config) : Except Error Unit :=
  match config.problems.head? with
  | some problem => .error (.invalid problem.text)
  | none => .ok ()

/-- The settings of a session. -/
def sessionSettings (config : Config) : Settings where
  environment := config.consumer.environment
  capacity := config.consumer.capacity
  idleTimeout := config.consumer.idleTimeout.map (· * 1000)
  drainTimeout := config.consumer.drainTimeout
  autoCreate :=
    if config.consumer.autoCreate.enabled then
      some ⟨config.consumer.autoCreate.partitions, config.consumer.autoCreate.replication⟩
    else none

/-- The connection as JSON. -/
def Connection.toJson (kafka : Connection) : Json :=
  .object [
    ("brokers", .string kafka.brokers),
    ("client_id", .string kafka.clientId),
    ("metadata_timeout_ms", .int kafka.metadataTimeout),
    ("extra", .object (kafka.extra.toList.map fun (name, value) => (name, .string value)))]

/-- The creation of topics as JSON. -/
def AutoCreate.toJson (autoCreate : AutoCreate) : Json :=
  .object [
    ("enabled", .bool autoCreate.enabled),
    ("partitions", .int autoCreate.partitions),
    ("replication_factor", .int autoCreate.replication)]

/-- The consumption as JSON. -/
def Consumption.toJson (consumer : Consumption) : Json :=
  .object [
    ("environment", .string consumer.environment),
    ("idle_timeout_secs", .ofOption (fun (n : Nat) => .int n) consumer.idleTimeout),
    ("drain_timeout_ms", .int consumer.drainTimeout),
    ("channel_capacity", .int consumer.capacity),
    ("auto_create", consumer.autoCreate.toJson)]

/-- A configuration as JSON. -/
def toJson (config : Config) : Json :=
  .object [
    ("kafka", config.kafka.toJson),
    ("store", .object [("path", .string config.store.path)]),
    ("consumer", config.consumer.toJson),
    ("logging", .object [
      ("level", .string config.logging.level),
      ("json", .bool config.logging.json)])]

end Config

end TopicReplay
