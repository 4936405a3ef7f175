import TopicReplay.Arguments.Grammar

/-!
# Usage

The usage of a program names the commands of its grammar with their options and
values by position. Completions for a shell offer the same names.
-/

namespace TopicReplay.Arguments

/-- The text of a fault. -/
def Fault.text : Fault → String
  | .missingArgument => "a required argument was not given"
  | .invalidValue => "a value is missing or not possible"
  | .valueValidation => "a value is not of the right form"
  | .unknownArgument => "an argument was not expected"
  | .tooManyValues => "a flag was given a value"
  | .conflict => "an option was given twice"
  | .invalidSubcommand => "a subcommand was not recognized"
  | .missingSubcommand => "a subcommand is required"
  | .nothingGiven => "nothing was given"
  | .help => "help was asked for"
  | .version => "the version was asked for"

/-- How an option is written. -/
def Switch.usage (switch : Switch) : String :=
  let value := if switch.action.hasValue then " <" ++ switch.name ++ ">" else ""
  "[--" ++ switch.name ++ value ++ "]"

/-- How a value by position is written. -/
def Operand.usage (operand : Operand) : String :=
  let name := if operand.required then "<" ++ operand.name ++ ">" else "[" ++ operand.name ++ "]"
  if operand.many then name ++ "..." else name

/-- A line of the usage. -/
def usageLine (names : List String) (switches : List Switch) (operands : List Operand) :
    String :=
  " ".intercalate (names ++ switches.map Switch.usage ++ operands.map Operand.usage)

mutual

/-- The lines on a command and its subcommands, where `names` lead to it. -/
def Grammar.usageLines (names : List String) : Grammar → List String
  | .mk switches operands subcommands =>
      usageLine names switches operands :: subcommandLines names subcommands

/-- The lines on subcommands. -/
def subcommandLines (names : List String) : List (String × Grammar) → List String
  | [] => []
  | (name, grammar) :: rest =>
      grammar.usageLines (names ++ [name]) ++ subcommandLines names rest

end

mutual

/-- All words that may stand on a command line. -/
def Grammar.words : Grammar → List String
  | .mk switches _ subcommands =>
      switches.map (fun switch => "--" ++ switch.name) ++ subcommandWords subcommands

/-- All words that subcommands bring. -/
def subcommandWords : List (String × Grammar) → List String
  | [] => []
  | (name, grammar) :: rest => name :: grammar.words ++ subcommandWords rest

end

/-- A script that lets a shell complete the words of a program. -/
def completionScript (shell program : String) (words : List String) : String :=
  let list := " ".intercalate words.eraseDups
  match shell with
  | "zsh" => "#compdef " ++ program ++ "\ncompadd " ++ list ++ "\n"
  | "fish" => "complete -c " ++ program ++ " -f -a \"" ++ list ++ "\"\n"
  | "elvish" =>
      "set edit:completion:arg-completer[" ++ program ++ "] = \x7b|@words| put " ++ list ++
        " \x7d\n"
  | "powershell" =>
      "Register-ArgumentCompleter -Native -CommandName " ++ program ++
        " -ScriptBlock \x7b \"" ++ list ++ "\" -split \" \" \x7d\n"
  | _ => "complete -W \"" ++ list ++ "\" " ++ program ++ "\n"

end TopicReplay.Arguments
