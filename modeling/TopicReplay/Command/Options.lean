import TopicReplay.Arguments.Reader
import TopicReplay.Checkpoint.Selection
import TopicReplay.Config.Basic
import TopicReplay.Event.Line
import TopicReplay.Session.Start

/-!
# Commands and their options

The program consumes topics, lists or deletes stored offsets, or writes completions
for a shell. Some options may stand before or behind the name of a command, and the
one that stands furthest in counts.
-/

namespace TopicReplay.Command

open Arguments (Action Fault Form Grammar Matches Operand Switch)

/-- The options of consuming topics. -/
structure Consume where
  topics : List String
  /-- Expressions for the starts. -/
  starts : List String
  /-- Expressions for the stops. -/
  stops : List String
  /-- Whether only partitions with an expression of their own are consumed. -/
  exclusive : Bool
  environment : Option String
  /-- After how many seconds without an event to stop. -/
  idleTimeout : Option Nat
  autoCreate : Bool
  /-- Whether consumed offsets are not recorded. -/
  noCommit : Bool
  /-- Whether offsets are kept in memory only. -/
  noStore : Bool
  deriving DecidableEq, Repr

/-- The options of working on stored offsets. -/
inductive Offsets where
  /-- Lists the offsets that two patterns select, with lag if that is wanted. -/
  | list (environment topic : Option String) (lag : Bool)
  /-- Deletes one topic of an environment, or all. -/
  | delete (environment : String) (topic : Option String)
  deriving DecidableEq, Repr

/-- What the program is to do. -/
inductive Task where
  | consume (options : Consume)
  | offsets (options : Offsets)
  | completions (shell : String)
  deriving DecidableEq, Repr

/-- A task with the options that every command has. -/
structure Invocation where
  /-- The path of the configuration file. -/
  config : Option String
  brokers : Option String
  format : OutputFormat
  verbose : Bool
  task : Task
  deriving DecidableEq, Repr

/-! ## Grammars -/

/-- The switches of consuming topics. -/
def Consume.switches : List Switch :=
  [{ name := "from", action := .many ',' },
    { name := "to", action := .many ',' },
    { name := "exclusive", action := .flag },
    { name := "environment", letter := some 'e' },
    { name := "idle-timeout", form := .count },
    { name := "auto-create", action := .flag },
    { name := "no-commit", action := .flag },
    { name := "no-store", action := .flag }]

/-- The grammar of consuming topics, with the switches that every command has. -/
def Consume.grammar (common : List Switch) : Grammar :=
  .mk (common ++ Consume.switches) [{ name := "topics", required := true, many := true }] []

/-- The grammar of listing offsets. -/
def Offsets.listGrammar (common : List Switch) : Grammar :=
  .mk (common ++ [
    { name := "environment", letter := some 'e' },
    { name := "topic", letter := some 't' },
    { name := "lag", action := .flag }]) [] []

/-- The grammar of deleting offsets. -/
def Offsets.deleteGrammar (common : List Switch) : Grammar :=
  .mk common [{ name := "environment", required := true }, { name := "topic" }] []

/-- The grammar of working on stored offsets. -/
def Offsets.grammar (common : List Switch) : Grammar :=
  .mk common [] [
    ("list", Offsets.listGrammar common),
    ("delete", Offsets.deleteGrammar common)]

/-- The shells that completions can be written for. -/
def shells : List String := ["bash", "elvish", "fish", "powershell", "zsh"]

/-- The names of the output formats. -/
def formats : List (String × OutputFormat) := [("plain", .plain), ("json", .json)]

/-- The switches that every command has, where `configFile` may come from elsewhere. -/
def commonSwitches (configFile : Option String) : List Switch :=
  [{ name := "config", letter := some 'c', form := .nonEmpty, preset := configFile },
    { name := "brokers", letter := some 'b' },
    { name := "format", letter := some 'f', form := .oneOf (formats.map (·.1)),
      default := some "plain" },
    { name := "verbose", letter := some 'v', action := .flag }]

/-- The switch that asks for the version. -/
def versionSwitch : Switch :=
  { name := "version", letter := some 'V', action := .request .version }

/-- The grammar of the program. -/
def grammar (configFile : Option String) : Grammar :=
  let common := commonSwitches configFile
  .mk (common ++ [versionSwitch]) [] [
    ("consume", Consume.grammar common),
    ("offsets", Offsets.grammar common),
    ("completions", .mk common [{ name := "shell", required := true, form := .oneOf shells }] [])]

/-! ## From matches to options -/

/-- The options of consuming topics that were found. -/
def Consume.ofMatches (found : Matches) : Consume where
  topics := found.values "topics"
  starts := found.values "from"
  stops := found.values "to"
  exclusive := found.has "exclusive"
  environment := found.value? "environment"
  idleTimeout := (found.value? "idle-timeout").bind fun text => Text.uint64? text.toList
  autoCreate := found.has "auto-create"
  noCommit := found.has "no-commit"
  noStore := found.has "no-store"

/-- The options of working on stored offsets that were found. -/
def Offsets.ofMatches (found : Matches) : Offsets :=
  match found.subcommand with
  | some ("delete", inner) =>
      .delete ((inner.value? "environment").getD "") (inner.value? "topic")
  | some (_, inner) =>
      .list (inner.value? "environment") (inner.value? "topic") (inner.has "lag")
  | none => .list none none false

/-- The task that was found. -/
def Task.ofMatches (found : Matches) : Task :=
  match found.subcommand with
  | some ("consume", inner) => .consume (.ofMatches inner)
  | some ("completions", inner) => .completions ((inner.value? "shell").getD "")
  | some (_, inner) => .offsets (.ofMatches inner)
  | none => .offsets (.list none none false)

/-- The values of a switch that every command has: those that were given furthest in. -/
def common? (found : Matches) (name : String) : Option String :=
  match found.chain.reverse.find? fun inner => inner.has name with
  | some inner => inner.value? name
  | none => found.value? name

/-- The invocation that was found. -/
def Invocation.ofMatches (found : Matches) : Invocation where
  config := common? found "config"
  brokers := common? found "brokers"
  format := ((common? found "format").bind fun name => formats.lookup name).getD .plain
  verbose := found.chain.any fun inner => inner.has "verbose"
  task := .ofMatches found

/-- Reads the options of consuming topics. -/
def Consume.parse (args : List String) : Except Fault Consume :=
  (Arguments.read (Consume.grammar []) args).map .ofMatches

/-- Reads the options of working on stored offsets. -/
def Offsets.parse (args : List String) : Except Fault Offsets :=
  (Arguments.read (Offsets.grammar []) args).map .ofMatches

/-- Reads the command line of the program, where the configuration file may come from
elsewhere. -/
def Invocation.parse (configFile : Option String) (args : List String) :
    Except Fault Invocation :=
  (Arguments.read (grammar configFile) args).map .ofMatches

/-! ## Options over a configuration -/

/-- A configuration with the options that set something in it. -/
def Consume.override (options : Consume) (config : Config) : Config :=
  let consumer := config.consumer
  { config with
    consumer := {
      consumer with
      environment := options.environment.getD consumer.environment
      idleTimeout := options.idleTimeout.or consumer.idleTimeout
      autoCreate := {
        consumer.autoCreate with
        enabled := options.autoCreate || consumer.autoCreate.enabled } } }

/-- What is to be read of the topics. All of them have the same selection. -/
def Consume.selections (options : Consume) : Except Checkpoint.Error Session.Topics := do
  let selection ← Selection.build options.starts options.stops options.exclusive
  return options.topics.foldl (fun topics topic => topics.insert topic selection) .empty

end TopicReplay.Command
