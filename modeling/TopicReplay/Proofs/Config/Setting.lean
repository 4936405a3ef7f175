import TopicReplay.Config.Reading
import TopicReplay.Proofs.Config.Path
import TopicReplay.Proofs.OrderedMap

/-!
# Settings

The settings of a configuration stand at the ends of paths. Reading a configuration follows
these paths: every setting has the value that is said at the end of its path, or its default
where nothing is said, and it is read only if each path leads through sections to a value.

The main statement is `follows_config`.
-/

namespace TopicReplay.Config

open Json (IsObject Tidy)

/-- A setting. -/
inductive Setting where
  | brokers
  | clientId
  | metadataTimeout
  /-- A further property of the client. -/
  | extra (name : String)
  | storePath
  | environment
  | idleTimeout
  | drainTimeout
  | capacity
  /-- Whether missing topics are created. -/
  | creation
  | partitions
  | replication
  | level
  /-- Whether JSON is logged. -/
  | json
  deriving DecidableEq, Repr

/-- A step into the whole. -/
def atTop (name : String) : Step := ⟨name, ["kafka", "store", "consumer", "logging"]⟩

/-- A step into what is said of the connection. -/
def atConnection (name : String) : Step :=
  ⟨name, ["brokers", "client_id", "metadata_timeout_ms", "extra"]⟩

/-- A step into what is said of consuming. -/
def atConsumption (name : String) : Step :=
  ⟨name,
    ["environment", "idle_timeout_secs", "drain_timeout_ms", "channel_capacity", "auto_create"]⟩

/-- A step into what is said of creating topics. -/
def atCreation (name : String) : Step := ⟨name, ["enabled", "partitions", "replication_factor"]⟩

/-- The path of a setting. -/
def Setting.path : Setting → List Step
  | .brokers => [atTop "kafka", atConnection "brokers"]
  | .clientId => [atTop "kafka", atConnection "client_id"]
  | .metadataTimeout => [atTop "kafka", atConnection "metadata_timeout_ms"]
  | .extra name => [atTop "kafka", atConnection "extra", ⟨name, []⟩]
  | .storePath => [atTop "store", ⟨"path", ["path"]⟩]
  | .environment => [atTop "consumer", atConsumption "environment"]
  | .idleTimeout => [atTop "consumer", atConsumption "idle_timeout_secs"]
  | .drainTimeout => [atTop "consumer", atConsumption "drain_timeout_ms"]
  | .capacity => [atTop "consumer", atConsumption "channel_capacity"]
  | .creation => [atTop "consumer", atConsumption "auto_create", atCreation "enabled"]
  | .partitions => [atTop "consumer", atConsumption "auto_create", atCreation "partitions"]
  | .replication =>
      [atTop "consumer", atConsumption "auto_create", atCreation "replication_factor"]
  | .level => [atTop "logging", ⟨"level", ["level", "json"]⟩]
  | .json => [atTop "logging", ⟨"json", ["level", "json"]⟩]

/-- The value of a setting. -/
def value (config : Config) (setting : Setting) : Option Json :=
  said setting.path (some config.toJson)

/-! ## Reading along a path -/

/-- Whether a reader follows a path: what it reads says at the end what was said there, or
what its default says where nothing was. -/
def Follows {α : Type} (read : Json → Option α) (write : α → Json) (initial : α)
    (path : List Step) : Prop :=
  ∀ json result, json.Tidy → read json = some result → Leads path (some json) ∧
    said path (some (write result)) =
      (said path (some json)).or (said path (some (write initial)))

section Reading

variable {α β : Type} {read : Json → Option α} {write : α → Json} {initial : α}

/-- A reader follows no path that takes a value as it is. -/
theorem follows_nil (exact : ∀ json result, read json = some result → write result = json)
    (plain : ∀ result, ¬(write result).IsObject) : Follows read write initial [] := by
  intro json result _ reads
  have same := exact json result reads
  refine ⟨?_, congrArg some same⟩
  rintro _ ⟨⟩
  exact same ▸ plain result

/-- The members of a section are those that its steps lead to. -/
theorem of?_of_members? {names : List String} {json : Json} {members : List (String × Json)}
    (given : Reading.members? ⟨true⟩ names json = some members) :
    (json.IsObject ∨ isList json = true) ∧
      ∀ name, Step.of? ⟨name, names⟩ json = members.lookup name := by
  cases json with
  | object held =>
      cases given
      exact ⟨.inl ⟨_, rfl⟩, fun _ => rfl⟩
  | array items =>
      cases given
      exact ⟨.inr rfl, fun _ => rfl⟩
  | null | bool | int | real | string => cases given

/-- A member of a section is read along the paths on which its reader follows. -/
theorem Follows.member {path : List Step} (follows : Follows read write initial path)
    {names : List String} {json : Json} {members : List (String × Json)} (tidy : json.Tidy)
    (given : Reading.members? ⟨true⟩ names json = some members) {name : String} {result : α}
    (reads : Reading.member? members name read initial = some result) :
    Leads (⟨name, names⟩ :: path) (some json) ∧
      said path (some (write result)) =
        (said (⟨name, names⟩ :: path) (some json)).or (said path (some (write initial))) := by
  rcases of?_of_members? given with ⟨isSection, found⟩
  have inside : (some json).bind (Step.of? ⟨name, names⟩) = members.lookup name := found name
  rw [said, Leads, inside, and_assoc]
  refine ⟨fun _ same => Option.some.inj same ▸ isSection, ?_⟩
  rw [Reading.member?] at reads
  cases held : members.lookup name with
  | none =>
      rw [held] at reads
      cases reads
      exact ⟨leads_none path, by rw [said_none, Option.none_or]⟩
  | some part =>
      rw [held] at reads
      exact follows part result (tidy_of? tidy ((found name).trans held)) reads

end Reading

/-! ## Values -/

theorem of_string? {json : Json} {s : String} (reads : Reading.string? json = some s) :
    .string s = json := by
  cases json with
  | string t => cases reads; rfl
  | null | bool | int | real | array | object => cases reads

theorem follows_string (initial : String) : Follows Reading.string? .string initial [] := by
  apply follows_nil
  · exact fun json s reads => of_string? reads
  · rintro s ⟨members, ⟨⟩⟩

theorem follows_bool (initial : Bool) : Follows Reading.bool? .bool initial [] := by
  apply follows_nil
  · intro json b reads
    cases json with
    | bool c => cases reads; rfl
    | null | int | real | string | array | object => cases reads
  · rintro b ⟨members, ⟨⟩⟩

theorem of_int? {least greatest n : Int} {json : Json}
    (reads : Reading.int? least greatest json = some n) : .int n = json ∧ least ≤ n := by
  cases json with
  | int m =>
      rw [Reading.int?] at reads
      split at reads
      · rename_i within
        cases reads
        exact ⟨rfl, within.1⟩
      · cases reads
  | null | bool | real | string | array | object => cases reads

theorem follows_int32 (initial : Int) : Follows Reading.int32? .int initial [] := by
  apply follows_nil
  · exact fun json n reads => (of_int? reads).1
  · rintro n ⟨members, ⟨⟩⟩

theorem of_count? {n : Nat} {json : Json} (reads : Reading.count? json = some n) :
    .int n = json := by
  rcases Option.map_eq_some_iff.mp reads with ⟨whole, found, rfl⟩
  rcases of_int? found with ⟨same, positive⟩
  rw [Int.toNat_of_nonneg positive]
  exact same

theorem follows_count (initial : Nat) :
    Follows Reading.count? (fun n : Nat => .int n) initial [] := by
  apply follows_nil
  · exact fun json n reads => of_count? reads
  · rintro n ⟨members, ⟨⟩⟩

theorem follows_limit (initial : Option Nat) :
    Follows (Reading.option? Reading.count?) (.ofOption fun n : Nat => .int n) initial [] := by
  apply follows_nil
  · intro json limit reads
    cases json with
    | null => cases reads; rfl
    | int =>
        rcases Option.map_eq_some_iff.mp reads with ⟨n, found, rfl⟩
        exact of_count? found
    | bool | real | string | array | object => cases reads
  · rintro (_ | n) ⟨members, ⟨⟩⟩

/-- An object of strings is read name by name. -/
theorem map_get?_of_strings {members : List (String × Json)} (nodup : (members.map (·.1)).Nodup)
    {start map : OrderedMap String String}
    (reads : members.foldlM
      (fun map (name, value) => (Reading.string? value).map (map.insert name)) start = some map)
    (name : String) :
    (map.get? name).map Json.string =
      (members.lookup name).or ((start.get? name).map Json.string) := by
  induction members generalizing start with
  | nil =>
      cases reads
      rfl
  | cons first rest ih =>
      rcases first with ⟨held, json⟩
      rcases List.nodup_cons.mp nodup with ⟨fresh, later⟩
      rcases Option.bind_eq_some_iff.mp reads with ⟨next, inserted, reads⟩
      rcases Option.map_eq_some_iff.mp inserted with ⟨s, found, rfl⟩
      have same := of_string? found
      rw [ih later reads]
      by_cases here : name = held
      · rw [here, Json.lookup_eq_none fresh, List.lookup_cons_self, OrderedMap.get?_insert_self,
          ← same]
        rfl
      · rw [Json.lookup_cons_of_ne here, OrderedMap.get?_insert_of_ne _ _ here]

/-- A map that is written as an object has a member for each entry. -/
theorem lookup_toList (map : OrderedMap String String) (name : String) :
    (map.toList.map fun (name, value) => (name, Json.string value)).lookup name =
      (map.get? name).map Json.string := by
  rcases map with ⟨entries, ascending⟩
  simp only [OrderedMap.toList, OrderedMap.get?]
  clear ascending
  induction entries with
  | nil => rfl
  | cons first rest ih =>
      rw [List.map_cons, OrderedMap.find]
      split
      · rename_i same
        rw [Std.LawfulEqOrd.eq_of_compare same, List.lookup_cons_self]
        rfl
      · rename_i apart
        rw [Json.lookup_cons_of_ne, ih]
        rintro rfl
        exact apart Std.ReflCmp.compare_self

theorem follows_extra (name : String) :
    Follows Reading.strings?
      (fun map => .object (map.toList.map fun (name, value) => (name, .string value)))
      .empty [⟨name, []⟩] := by
  intro json map tidy reads
  cases json with
  | object members =>
      have same := map_get?_of_strings tidy.nodup reads name
      have held : (map.get? name).map Json.string = members.lookup name := by
        rw [same, OrderedMap.get?_empty]
        exact Option.or_none
      refine ⟨⟨?_, ?_⟩, ?_⟩
      · rintro _ ⟨⟩
        exact .inl ⟨members, rfl⟩
      · intro part found
        rw [Option.bind_some, Step.of?, ← held] at found
        rcases Option.map_eq_some_iff.mp found with ⟨s, _, rfl⟩
        rintro ⟨others, ⟨⟩⟩
      · exact (lookup_toList map name).trans (held.trans Option.or_none.symm)
  | null | bool | int | real | string | array => cases reads

/-! ## Sections -/

/-- How the broker is reached is read along the paths of its settings. -/
theorem follows_connection (name : String) :
    ∀ path ∈ [[atConnection "brokers"], [atConnection "client_id"],
        [atConnection "metadata_timeout_ms"], [atConnection "extra", ⟨name, []⟩]],
      Follows (Reading.connection? ⟨true⟩) Connection.toJson {} path := by
  intro path member json kafka tidy reads
  rcases Option.bind_eq_some_iff.mp reads with ⟨members, given, reads⟩
  rcases Option.bind_eq_some_iff.mp reads with ⟨brokers, brokersReads, reads⟩
  rcases Option.bind_eq_some_iff.mp reads with ⟨clientId, clientIdReads, reads⟩
  rcases Option.bind_eq_some_iff.mp reads with ⟨timeout, timeoutReads, reads⟩
  rcases Option.bind_eq_some_iff.mp reads with ⟨extra, extraReads, ⟨⟩⟩
  simp only [List.mem_cons, List.not_mem_nil, or_false] at member
  rcases member with rfl | rfl | rfl | rfl
  · exact (follows_string _).member tidy given brokersReads
  · exact (follows_string _).member tidy given clientIdReads
  · exact (follows_count _).member tidy given timeoutReads
  · exact (follows_extra name).member tidy given extraReads

/-- What missing topics are created like is read along the paths of its settings. -/
theorem follows_creation :
    ∀ path ∈ [[atCreation "enabled"], [atCreation "partitions"],
        [atCreation "replication_factor"]],
      Follows (Reading.autoCreate? ⟨true⟩) AutoCreate.toJson {} path := by
  intro path member json creation tidy reads
  rcases Option.bind_eq_some_iff.mp reads with ⟨members, given, reads⟩
  rcases Option.bind_eq_some_iff.mp reads with ⟨enabled, enabledReads, reads⟩
  rcases Option.bind_eq_some_iff.mp reads with ⟨partitions, partitionsReads, reads⟩
  rcases Option.bind_eq_some_iff.mp reads with ⟨replication, replicationReads, ⟨⟩⟩
  simp only [List.mem_cons, List.not_mem_nil, or_false] at member
  rcases member with rfl | rfl | rfl
  · exact (follows_bool _).member tidy given enabledReads
  · exact (follows_int32 _).member tidy given partitionsReads
  · exact (follows_int32 _).member tidy given replicationReads

/-- How topics are consumed is read along the paths of its settings. -/
theorem follows_consumption :
    ∀ path ∈ [[atConsumption "environment"], [atConsumption "idle_timeout_secs"],
        [atConsumption "drain_timeout_ms"], [atConsumption "channel_capacity"],
        [atConsumption "auto_create", atCreation "enabled"],
        [atConsumption "auto_create", atCreation "partitions"],
        [atConsumption "auto_create", atCreation "replication_factor"]],
      Follows (Reading.consumption? ⟨true⟩) Consumption.toJson {} path := by
  intro path member json consumer tidy reads
  rcases Option.bind_eq_some_iff.mp reads with ⟨members, given, reads⟩
  rcases Option.bind_eq_some_iff.mp reads with ⟨environment, environmentReads, reads⟩
  rcases Option.bind_eq_some_iff.mp reads with ⟨idle, idleReads, reads⟩
  rcases Option.bind_eq_some_iff.mp reads with ⟨drain, drainReads, reads⟩
  rcases Option.bind_eq_some_iff.mp reads with ⟨capacity, capacityReads, reads⟩
  rcases Option.bind_eq_some_iff.mp reads with ⟨creation, creationReads, ⟨⟩⟩
  simp only [List.mem_cons, List.not_mem_nil, or_false] at member
  rcases member with rfl | rfl | rfl | rfl | rfl | rfl | rfl
  · exact (follows_string _).member tidy given environmentReads
  · exact (follows_limit _).member tidy given idleReads
  · exact (follows_count _).member tidy given drainReads
  · exact (follows_count _).member tidy given capacityReads
  · exact (follows_creation _ (by simp)).member tidy given creationReads
  · exact (follows_creation _ (by simp)).member tidy given creationReads
  · exact (follows_creation _ (by simp)).member tidy given creationReads

/-- Where offsets are stored is read along the path of its setting. -/
theorem follows_storage (initial : Storage) :
    Follows (Reading.storage? ⟨true⟩ initial) (fun store => .object [("path", .string store.path)])
      initial [⟨"path", ["path"]⟩] := by
  intro json store tidy reads
  rcases Option.bind_eq_some_iff.mp reads with ⟨members, given, reads⟩
  rcases Option.bind_eq_some_iff.mp reads with ⟨path, pathReads, ⟨⟩⟩
  exact (follows_string _).member tidy given pathReads

/-- What is logged is read along the paths of its settings. -/
theorem follows_logging :
    ∀ path ∈ [[(⟨"level", ["level", "json"]⟩ : Step)], [⟨"json", ["level", "json"]⟩]],
      Follows (Reading.logging? ⟨true⟩)
        (fun logging => .object [("level", .string logging.level), ("json", .bool logging.json)])
        {} path := by
  intro path member json logging tidy reads
  rcases Option.bind_eq_some_iff.mp reads with ⟨members, given, reads⟩
  rcases Option.bind_eq_some_iff.mp reads with ⟨level, levelReads, reads⟩
  rcases Option.bind_eq_some_iff.mp reads with ⟨asJson, jsonReads, ⟨⟩⟩
  simp only [List.mem_cons, List.not_mem_nil, or_false] at member
  rcases member with rfl | rfl
  · exact (follows_string _).member tidy given levelReads
  · exact (follows_bool _).member tidy given jsonReads

/-- A configuration is read along the paths of its settings. -/
theorem follows_config (home : Option String) (setting : Setting) :
    Follows (Reading.config? ⟨true⟩ home) toJson (initial home) setting.path := by
  intro json config tidy reads
  rcases Option.bind_eq_some_iff.mp reads with ⟨members, given, reads⟩
  rcases Option.bind_eq_some_iff.mp reads with ⟨kafka, kafkaReads, reads⟩
  rcases Option.bind_eq_some_iff.mp reads with ⟨store, storeReads, reads⟩
  rcases Option.bind_eq_some_iff.mp reads with ⟨consumer, consumerReads, reads⟩
  rcases Option.bind_eq_some_iff.mp reads with ⟨logging, loggingReads, ⟨⟩⟩
  cases setting with
  | brokers | clientId | metadataTimeout =>
      exact (follows_connection "" _ (by simp)).member tidy given kafkaReads
  | extra name => exact (follows_connection name _ (by simp)).member tidy given kafkaReads
  | storePath => exact (follows_storage _).member tidy given storeReads
  | environment | idleTimeout | drainTimeout | capacity | creation | partitions | replication =>
      exact (follows_consumption _ (by simp)).member tidy given consumerReads
  | level | json => exact (follows_logging _ (by simp)).member tidy given loggingReads

/-! ## Writing -/

/-- Every setting stands below sections that are objects. -/
theorem nested_toJson (config : Config) (setting : Setting) :
    Nested setting.path (some config.toJson) := by
  have object : ∀ members, ∀ json ∈ some (Json.object members), json.IsObject := by
    rintro members _ ⟨⟩
    exact ⟨members, rfl⟩
  cases setting with
  | extra | creation | partitions | replication =>
      exact ⟨object _, object _, object _, trivial⟩
  | brokers | clientId | metadataTimeout | storePath | environment | idleTimeout | drainTimeout
  | capacity | level | json => exact ⟨object _, object _, trivial⟩

theorem tidy_extra (map : OrderedMap String String) :
    Tidy (.object (map.toList.map fun (name, value) => (name, .string value))) := by
  constructor
  · have nodup := map.nodup_keys
    rw [OrderedMap.keys] at nodup
    rw [List.map_map]
    exact nodup
  · intro member found
    rcases List.mem_map.mp found with ⟨entry, _, rfl⟩
    exact .string entry.2

/-- A configuration is written without repeated names. -/
theorem tidy_toJson (config : Config) : config.toJson.Tidy := by
  have kafka : config.kafka.toJson.Tidy :=
    .object (by simp) (by simp [Tidy.string, Tidy.int, tidy_extra])
  have store : Tidy (.object [("path", .string config.store.path)]) :=
    .object (by simp) (by simp [Tidy.string])
  have limit : (Json.ofOption (fun n : Nat => .int n) config.consumer.idleTimeout).Tidy := by
    cases config.consumer.idleTimeout with
    | none => exact .null
    | some n => exact .int n
  have creation : config.consumer.autoCreate.toJson.Tidy :=
    .object (by simp) (by simp [Tidy.bool, Tidy.int])
  have consumer : config.consumer.toJson.Tidy :=
    .object (by simp) (by simp [Tidy.string, Tidy.int, limit, creation])
  have logging : Tidy (.object [("level", .string config.logging.level),
      ("json", .bool config.logging.json)]) :=
    .object (by simp) (by simp [Tidy.string, Tidy.bool])
  exact .object (by simp) (by simp [kafka, store, consumer, logging])

end TopicReplay.Config
