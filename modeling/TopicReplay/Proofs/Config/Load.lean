import TopicReplay.Command.Options
import TopicReplay.Config.Load
import TopicReplay.Proofs.Config.Setting
import TopicReplay.Proofs.Config.Variables
import TopicReplay.Proofs.Except
import TopicReplay.Proofs.Yaml.Reader

/-!
# Layers of settings

A loaded configuration is put together setting by setting. A setting has the value that a
variable sets; if none does, it has the value in the file; and if that says nothing either,
it has its default. A section in the file does not count where the variables give the same
section and one of the two gives it as a list, which stands for all its members. What the
options of a command say comes last.

The main statement is `settings_layered`.
-/

namespace TopicReplay

/-- What the options of a command say of a setting. -/
def Command.Consume.value (options : Consume) : Config.Setting → Option Json
  | .environment => options.environment.map .string
  | .idleTimeout => options.idleTimeout.map fun (n : Nat) => .int n
  | .creation => if options.autoCreate then some (.bool true) else none
  | _ => none

namespace Config

open Variables (AllApart Sets)

/-- Options change the settings of which they say something and no others. -/
theorem value_override (options : Command.Consume) (config : Config) (setting : Setting) :
    (options.override config).value setting =
      (options.value setting).or (config.value setting) := by
  cases setting with
  | environment =>
      change some (Json.string (options.environment.getD config.consumer.environment)) =
        (options.environment.map Json.string).or (some (.string config.consumer.environment))
      cases options.environment <;> rfl
  | idleTimeout =>
      change some (Json.ofOption (fun n : Nat => .int n)
          (options.idleTimeout.or config.consumer.idleTimeout)) =
        (options.idleTimeout.map fun n : Nat => Json.int n).or
          (some (.ofOption (fun n : Nat => .int n) config.consumer.idleTimeout))
      cases options.idleTimeout <;> rfl
  | creation =>
      change some (Json.bool (options.autoCreate || config.consumer.autoCreate.enabled)) =
        (if options.autoCreate then some (Json.bool true) else none).or
          (some (.bool config.consumer.autoCreate.enabled))
      cases options.autoCreate <;> rfl
  | brokers | clientId | metadataTimeout | extra | storePath | drainTimeout | capacity | partitions
  | replication | level | json => rfl

/-- The layer of a file is tidy. -/
theorem tidy_optionalLayer {file : Option (String × Entry)} {layer : Json}
    (read : optionalLayer file = .ok layer) : layer.Tidy := by
  cases file with
  | none => cases read; exact Json.tidy_empty
  | some named =>
      rcases named with ⟨path, entry⟩
      cases entry with
      | absent => cases read
      | directory => cases read; exact Json.tidy_empty
      | file text =>
          rw [optionalLayer, fileLayer] at read
          split at read
          · rename_i members found
            cases read
            rcases Option.bind_eq_some_iff.mp found with ⟨written, _, reads⟩
            exact Yaml.tidy_read? reads
          · cases read

/-- A configuration is loaded from layers, and all is well with it. -/
theorem load_eq_ok {environment : Environment} {file : Option (String × Entry)} {config : Config}
    (loaded : load environment file = .ok config) :
    ∃ layer, optionalLayer file = .ok layer ∧
      Reading.config? ⟨true⟩ (home environment) (layered environment layer) = some config ∧
      config.validate = .ok () := by
  rcases bind_eq_ok_iff.mp loaded with ⟨layer, read, loaded⟩
  refine ⟨layer, read, ?_⟩
  cases found : Reading.config? ⟨true⟩ (home environment) (layered environment layer) with
  | none => rw [found] at loaded; cases loaded
  | some result =>
      rw [found] at loaded
      rcases bind_eq_ok_iff.mp loaded with ⟨⟨⟩, valid, ⟨⟩⟩
      exact ⟨rfl, valid⟩

/-- A setting has the value in the layer of variables, or else the value in the file as far
as it counts, or else its default. -/
theorem value_of_layers {environment : Environment} {layer : Json} {config : Config}
    (tidy : layer.Tidy) (setting : Setting)
    (read : Reading.config? ⟨true⟩ (home environment) (layered environment layer) = some config) :
    config.value setting =
      (said setting.path (some (Variables.layer environment))).or
        ((kept setting.path (some layer) (some (Variables.layer environment))).or
          ((initial (home environment)).value setting)) := by
  have variablesTidy := Variables.tidy_layer environment
  have whole : (layered environment layer).Tidy :=
    ((tidy_toJson _).overlay tidy).overlay variablesTidy
  rcases follows_config _ setting _ config whole read with ⟨leads, same⟩
  rw [value, same]
  have fileTidy : ∀ json ∈ some layer, json.Tidy := by
    rintro _ ⟨⟩
    exact tidy
  have upperTidy : ∀ json ∈ some (Variables.layer environment), json.Tidy := by
    rintro _ ⟨⟩
    exact variablesTidy
  exact said_stack (nested_toJson _ setting) fileTidy upperTidy leads

/-- No setting is an object. -/
theorem not_isObject_value (config : Config) (setting : Setting) :
    ∀ json ∈ config.value setting, ¬json.IsObject := by
  intro json found
  cases setting with
  | extra name =>
      have held := (lookup_toList config.kafka.extra name).symm.trans found
      rcases Option.map_eq_some_iff.mp held with ⟨s, _, rfl⟩
      rintro ⟨members, ⟨⟩⟩
  | idleTimeout =>
      cases found
      cases config.consumer.idleTimeout with
      | none => rintro ⟨members, ⟨⟩⟩
      | some n => rintro ⟨members, ⟨⟩⟩
  | brokers | clientId | metadataTimeout | storePath | environment | drainTimeout | capacity
  | creation | partitions | replication | level | json =>
      cases found
      rintro ⟨members, ⟨⟩⟩

/-- The layers of a loaded configuration compose setting by setting. -/
theorem settings_layered {environment : Environment} {file : Option (String × Entry)}
    {config : Config} (apart : AllApart environment)
    (loaded : load environment file = .ok config) :
    config.validate = .ok () ∧
      (∃ layer, optionalLayer file = .ok layer ∧ ∀ setting,
        (∀ json, Sets environment setting.path json → config.value setting = some json) ∧
        ((∀ json, ¬Sets environment setting.path json) →
          config.value setting =
            (kept setting.path (some layer) (some (Variables.layer environment))).or
              ((initial (home environment)).value setting))) ∧
      ∀ (options : Command.Consume) setting,
        (options.override config).value setting =
          (options.value setting).or (config.value setting) := by
  rcases load_eq_ok loaded with ⟨layer, read, found, valid⟩
  refine ⟨valid, ⟨layer, read, fun setting => ?_⟩, fun options => value_override options config⟩
  have whole := value_of_layers (tidy_optionalLayer read) setting found
  constructor
  · intro json sets
    rw [whole, Variables.said_layer_of_sets apart sets]
    rfl
  · intro unset
    have silent : said setting.path (some (Variables.layer environment)) = none := by
      cases given : said setting.path (some (Variables.layer environment)) with
      | none => rfl
      | some json =>
          rcases Variables.sets_of_said_layer apart given with object | sets
          · rw [given] at whole
            exact absurd object (not_isObject_value config setting json whole)
          · exact absurd sets (unset json)
    rw [whole, silent, Option.none_or]

/-- Variables of which one sets a value and the other one a section. -/
def mixedVariables : Environment :=
  [("KREPLAY_KAFKA__BROKERS", "first:9092"), ("Kreplay_Consumer", "\x7bdrain_timeout_ms = 7\x7d")]

/-- A file that sets a value which a variable sets as well. -/
def mixedFile : Option (String × Entry) :=
  some ("kreplay.yaml", .file (some "kafka:\n  brokers: second:9092\n  client_id: me\n"))

/-- The configuration that is loaded from both. -/
def mixedConfig : Config :=
  { initial none with
    kafka := { brokers := "first:9092", clientId := "me" }
    consumer := { drainTimeout := 7 } }

theorem settings_layered_mixed :
    AllApart mixedVariables ∧ load mixedVariables mixedFile = .ok mixedConfig ∧
      mixedConfig.validate = .ok () ∧
      mixedConfig.value .brokers = some (.string "first:9092") := by
  have apart : AllApart mixedVariables := by
    unfold AllApart Variables.Apart
    decide +kernel
  have loaded : load mixedVariables mixedFile = .ok mixedConfig :=
    toOption_eq_some_iff.mp (by decide +kernel)
  have text : Reading.string? (Variables.value "first:9092") = some "first:9092" := by
    decide +kernel
  have sets : Sets mixedVariables Setting.brokers.path (.string "first:9092") :=
    ⟨_, List.mem_cons_self, Setting.brokers.path, [], rfl, by decide +kernel,
      congrArg some (of_string? text).symm⟩
  rcases settings_layered apart loaded with ⟨valid, ⟨layer, _, settings⟩, _⟩
  exact ⟨apart, loaded, valid, (settings .brokers).1 _ sets⟩

/-- A variable that gives the connection as a list, which has its first member. -/
def listVariables : Environment := [("KREPLAY_KAFKA", "[\"localhost:9092\"]")]

/-- A file that sets another member of the connection. -/
def listFile : Option (String × Entry) :=
  some ("kreplay.yaml", .file (some "kafka:\n  client_id: me\n"))

/-- A list in a variable takes the place of the section in the file, so that a setting in the
file is lost which no variable sets. -/
theorem list_replaces_section :
    ∃ layer config, optionalLayer listFile = .ok layer ∧
      load listVariables listFile = .ok config ∧ AllApart listVariables ∧
      (∀ json, ¬Sets listVariables Setting.clientId.path json) ∧
      said Setting.clientId.path (some layer) = some (.string "me") ∧
      config.value .clientId = some (.string "kreplay") := by
  have apart : AllApart listVariables := List.pairwise_singleton _ _
  have loaded : load listVariables listFile = .ok (initial none) :=
    toOption_eq_some_iff.mp (by decide +kernel)
  have silent : (said Setting.clientId.path (some (Variables.layer listVariables))).isNone := by
    decide +kernel
  have text : ((optionalLayer listFile).toOption.bind fun layer =>
      (said Setting.clientId.path (some layer)).bind Reading.string?) = some "me" := by
    decide +kernel
  rcases Option.bind_eq_some_iff.mp text with ⟨layer, read, text⟩
  rcases Option.bind_eq_some_iff.mp text with ⟨json, found, reads⟩
  refine ⟨layer, _, toOption_eq_some_iff.mp read, loaded, apart, fun other sets => ?_, ?_, rfl⟩
  · rw [Variables.said_layer_of_sets apart sets] at silent
    cases silent
  · rw [found, ← of_string? reads]

end Config

end TopicReplay
