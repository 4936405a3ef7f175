import TopicReplay.Config.Basic

/-!
# Configurations from JSON

A configuration is read from an object in which every setting may be missing and
unknown members are passed over. A list of values in the order of the settings is
taken as well. A value of the wrong kind, or a number out of range, makes the
whole unreadable, and nothing is converted.
-/

namespace TopicReplay.Config

/-- What reading may let pass. -/
structure Reading where
  /-- Whether a list may have more items than there are settings. -/
  longLists : Bool

namespace Reading

/-- A string. -/
def string? : Json → Option String
  | .string s => some s
  | _ => none

/-- A truth value. -/
def bool? : Json → Option Bool
  | .bool b => some b
  | _ => none

/-- A whole number within bounds. -/
def int? (least greatest : Int) : Json → Option Int
  | .int n => if least ≤ n ∧ n ≤ greatest then some n else none
  | _ => none

/-- A number of things, which fits 64 bits. -/
def count? (json : Json) : Option Nat := (int? 0 Text.maxUInt64 json).map Int.toNat

/-- A number that fits 32 bits. -/
def int32? (json : Json) : Option Int := int? Text.minInt32 Text.maxInt32 json

/-- A value or `null`. -/
def option? {α : Type} (read : Json → Option α) : Json → Option (Option α)
  | .null => some none
  | json => (read json).map some

/-- An object all of whose members are strings. -/
def strings? : Json → Option (OrderedMap String String)
  | .object members =>
      members.foldlM (fun map (name, value) => (string? value).map (map.insert name)) .empty
  | _ => none

/-- The members of an object, or the items of a list under the names that are due. -/
def members? (reading : Reading) (names : List String) : Json → Option (List (String × Json))
  | .object members => some members
  | .array items =>
      if reading.longLists || items.length ≤ names.length then some (names.zip items) else none
  | _ => none

/-- A member, or its default where it is missing. -/
def member? {α : Type} (members : List (String × Json)) (name : String) (read : Json → Option α)
    (fallback : α) : Option α :=
  match members.lookup name with
  | some json => read json
  | none => some fallback

/-- Reads how the broker is reached. -/
def connection? (reading : Reading) (json : Json) : Option Connection := do
  let members ← reading.members? ["brokers", "client_id", "metadata_timeout_ms", "extra"] json
  let initial : Connection := {}
  return {
    brokers := ← member? members "brokers" string? initial.brokers
    clientId := ← member? members "client_id" string? initial.clientId
    metadataTimeout := ← member? members "metadata_timeout_ms" count? initial.metadataTimeout
    extra := ← member? members "extra" strings? initial.extra }

/-- Reads where offsets are stored. -/
def storage? (reading : Reading) (initial : Storage) (json : Json) : Option Storage := do
  let members ← reading.members? ["path"] json
  return ⟨← member? members "path" string? initial.path⟩

/-- Reads what missing topics are created like. -/
def autoCreate? (reading : Reading) (json : Json) : Option AutoCreate := do
  let members ← reading.members? ["enabled", "partitions", "replication_factor"] json
  let initial : AutoCreate := {}
  return {
    enabled := ← member? members "enabled" bool? initial.enabled
    partitions := ← member? members "partitions" int32? initial.partitions
    replication := ← member? members "replication_factor" int32? initial.replication }

/-- Reads how topics are consumed. -/
def consumption? (reading : Reading) (json : Json) : Option Consumption := do
  let members ← reading.members?
    ["environment", "idle_timeout_secs", "drain_timeout_ms", "channel_capacity", "auto_create"] json
  let initial : Consumption := {}
  return {
    environment := ← member? members "environment" string? initial.environment
    idleTimeout := ← member? members "idle_timeout_secs" (option? count?) initial.idleTimeout
    drainTimeout := ← member? members "drain_timeout_ms" count? initial.drainTimeout
    capacity := ← member? members "channel_capacity" count? initial.capacity
    autoCreate := ← member? members "auto_create" reading.autoCreate? initial.autoCreate }

/-- Reads what is logged. -/
def logging? (reading : Reading) (json : Json) : Option Logging := do
  let members ← reading.members? ["level", "json"] json
  let initial : Logging := {}
  return {
    level := ← member? members "level" string? initial.level
    json := ← member? members "json" bool? initial.json }

/-- Reads a configuration. -/
def config? (reading : Reading) (home : Option String) (json : Json) : Option Config := do
  let members ← reading.members? ["kafka", "store", "consumer", "logging"] json
  let initial := Config.initial home
  return {
    kafka := ← member? members "kafka" reading.connection? initial.kafka
    store := ← member? members "store" (reading.storage? initial.store) initial.store
    consumer := ← member? members "consumer" reading.consumption? initial.consumer
    logging := ← member? members "logging" reading.logging? initial.logging }

end Reading

/-- The configuration that a JSON value describes. -/
def ofJson? (home : Option String) (json : Json) : Option Config :=
  Reading.config? ⟨false⟩ home json

end TopicReplay.Config
