import TopicReplay.Text.Integer

/-!
# Argument grammars

A grammar says what may stand on a command line: options with values, flags,
values by their position, and subcommands with grammars of their own. Reading a
command line gives the values that were found, or the first fault that is noticed.
-/

namespace TopicReplay.Arguments

/-- What is wrong with a command line, or what it asks for instead of a run. -/
inductive Fault where
  /-- A value that must be there is missing. -/
  | missingArgument
  /-- An option stands without its value, or a value is none of the possible ones. -/
  | invalidValue
  /-- A value is not of the form that is asked for. -/
  | valueValidation
  | unknownArgument
  /-- A flag has a value. -/
  | tooManyValues
  /-- An option that may stand once stands twice. -/
  | conflict
  | invalidSubcommand
  | missingSubcommand
  /-- Nothing is given where something must be. -/
  | nothingGiven
  /-- The help is asked for. -/
  | help
  /-- The version is asked for. -/
  | version
  deriving DecidableEq, Repr

/-- What an option does. -/
inductive Action where
  /-- It may stand once, without a value. -/
  | flag
  /-- It may stand once, with one value. -/
  | single
  /-- It may stand many times with one value each, which are split at a character. -/
  | many (separator : Char)
  /-- It asks for something instead of a run. -/
  | request (fault : Fault)
  deriving DecidableEq, Repr

/-- Whether an option has a value. -/
def Action.hasValue : Action → Bool
  | .single | .many _ => true
  | .flag | .request _ => false

/-- What the values of an option or a position must look like. -/
inductive Form where
  | any
  | nonEmpty
  /-- A number that fits 64 bits. -/
  | count
  | oneOf (choices : List String)
  deriving DecidableEq, Repr

/-- Checks the form of a value. -/
def Form.check (form : Form) (value : String) : Except Fault Unit :=
  match form with
  | .any => .ok ()
  | .nonEmpty => if value.isEmpty then .error .invalidValue else .ok ()
  | .count => if (Text.uint64? value.toList).isSome then .ok () else .error .valueValidation
  | .oneOf choices => if value ∈ choices then .ok () else .error .invalidValue

/-- An option. -/
structure Switch where
  /-- The name that follows two dashes. -/
  name : String
  /-- The letter that follows one dash. -/
  letter : Option Char := none
  action : Action := .single
  form : Form := .any
  /-- A value from elsewhere, which holds where the option is not given. -/
  preset : Option String := none
  /-- The value that holds where there is no other. -/
  default : Option String := none

/-- A value by its position. -/
structure Operand where
  name : String
  required : Bool := false
  /-- Whether all further values belong to it. -/
  many : Bool := false
  form : Form := .any

/-- What may stand on a command line. -/
inductive Grammar where
  | mk (switches : List Switch) (operands : List Operand) (subcommands : List (String × Grammar))

namespace Grammar

/-- The options of a command, without the request for help. -/
def switches : Grammar → List Switch
  | mk switches _ _ => switches

/-- The values by position. -/
def operands : Grammar → List Operand
  | mk _ operands _ => operands

/-- The subcommands, of which one must be given where there are any. -/
def subcommands : Grammar → List (String × Grammar)
  | mk _ _ subcommands => subcommands

/-- The option that every command has. -/
def helpSwitch : Switch := { name := "help", letter := some 'h', action := .request .help }

/-- All options of a command. -/
def allSwitches (grammar : Grammar) : List Switch := grammar.switches ++ [helpSwitch]

/-- The option with a name. -/
def named? (grammar : Grammar) (name : String) : Option Switch :=
  grammar.allSwitches.find? fun switch => switch.name == name

/-- The option with a letter. -/
def lettered? (grammar : Grammar) (letter : Char) : Option Switch :=
  grammar.allSwitches.find? fun switch => switch.letter == some letter

/-- The subcommand with a name. -/
def subcommand? (grammar : Grammar) (name : String) : Option Grammar :=
  grammar.subcommands.lookup name

/-- What the help on further subcommands comes to. -/
def helpOn (grammar : Grammar) : List String → Fault
  | [] => .help
  | name :: rest =>
      match grammar.subcommand? name with
      | some grammar => grammar.helpOn rest
      | none => if name = "help" ∧ !grammar.subcommands.isEmpty ∧ rest = [] then .help
          else .invalidSubcommand

end Grammar

end TopicReplay.Arguments
