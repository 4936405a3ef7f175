import TopicReplay.Arguments.Grammar

/-!
# Reading a command line

Arguments are read from left to right. An option's values are checked when the
next option or value is met, or at the end, so that a fault in between is noticed
first. A subcommand is read to its end before what stands before it is checked.
Behind two dashes all arguments are values by position.
-/

namespace TopicReplay.Arguments

/-- The values that were found on a command line. -/
inductive Matches where
  /-- The values of options and positions by name, and the subcommand if there is one. -/
  | mk (given fallbacks : List (String × List String)) (subcommand : Option (String × Matches))

namespace Matches

/-- The values that were given, by name. -/
def given : Matches → List (String × List String)
  | mk given _ _ => given

/-- The values that hold where none were given, by name. -/
def fallbacks : Matches → List (String × List String)
  | mk _ fallbacks _ => fallbacks

/-- The subcommand. -/
def subcommand : Matches → Option (String × Matches)
  | mk _ _ subcommand => subcommand

/-- The values of a name. -/
def values (found : Matches) (name : String) : List String :=
  ((found.given.lookup name).or (found.fallbacks.lookup name)).getD []

/-- The value of a name that has at most one. -/
def value? (found : Matches) (name : String) : Option String := (found.values name).head?

/-- Whether a name was given. -/
def has (found : Matches) (name : String) : Bool := (found.given.lookup name).isSome

/-- The command and its subcommands, from the outermost to the innermost. -/
def chain : Matches → List Matches
  | mk given fallbacks none => [mk given fallbacks none]
  | mk given fallbacks (some (name, inner)) =>
      mk given fallbacks (some (name, inner)) :: inner.chain

end Matches

/-- How far a command line was read. -/
structure Scan where
  /-- The values of options, by name. -/
  given : List (String × List String) := []
  /-- The option whose values are not checked yet, with them. -/
  pending : Option (Switch × List String) := none
  /-- Whether the next argument is the value of the pending option. -/
  expecting : Bool := false
  /-- The values by position. -/
  operands : List String := []
  /-- Whether two dashes were met. -/
  trailing : Bool := false

namespace Scan

/-- The pieces of the values of an option. -/
def pieces : Action → List String → List String
  | .many separator, values =>
      values.flatMap fun value => value.splitOn (String.singleton separator)
  | _, values => values

/-- Adds values to those of a name. -/
def add (name : String) (values : List String) :
    List (String × List String) → List (String × List String)
  | [] => [(name, values)]
  | (other, old) :: rest =>
      if other = name then (name, old ++ values) :: rest else (other, old) :: add name values rest

/-- Takes up an option with its values. -/
def take (scan : Scan) (switch : Switch) (values : List String) : Except Fault Scan := do
  if switch.action.hasValue && values.isEmpty then throw .invalidValue
  if let .request fault := switch.action then throw fault
  let once := match switch.action with
    | .many _ => false
    | _ => true
  if once && (scan.given.lookup switch.name).isSome then throw .conflict
  let values := pieces switch.action values
  values.forM switch.form.check
  return { scan with given := add switch.name values scan.given }

/-- Takes up the pending option. -/
def settle (scan : Scan) : Except Fault Scan :=
  match scan.pending with
  | none => .ok scan
  | some (switch, values) => { scan with pending := none, expecting := false }.take switch values

/-- Takes up the pending option and then another one. -/
def react (scan : Scan) (switch : Switch) (values : List String) : Except Fault Scan := do
  (← scan.settle).take switch values

/-- Meets an option that has a value, which may be attached to it. -/
def await (scan : Scan) (switch : Switch) (attached : Option String) : Except Fault Scan := do
  match attached with
  | some value => scan.react switch [value]
  | none => return { ← scan.settle with pending := some (switch, []), expecting := true }

/-- Meets an argument with two dashes. -/
def long (grammar : Grammar) (scan : Scan) (body : List Char) : Except Fault Scan :=
  let (name, rest) := body.span (· != '=')
  let attached := if rest.isEmpty then none else some (String.ofList (rest.drop 1))
  match grammar.named? (String.ofList name) with
  | none => .error .unknownArgument
  | some switch =>
      if switch.action.hasValue then scan.await switch attached
      else if attached.isSome then .error .tooManyValues
      else { scan with expecting := false }.react switch []

/-- Meets the letters behind one dash. -/
def short (grammar : Grammar) (scan : Scan) : List Char → Except Fault Scan
  | [] => .ok scan
  | letter :: rest =>
      match grammar.lettered? letter with
      | none => .error .unknownArgument
      | some switch =>
          if switch.action.hasValue then
            let attached :=
              match rest with
              | [] => none
              | '=' :: value => some (String.ofList value)
              | value => some (String.ofList value)
            scan.await switch attached
          else
            match { scan with expecting := false }.react switch [] with
            | .ok scan => short grammar scan rest
            | .error fault => .error fault

/-- The fault of a value for which there is no position. -/
def surplus (grammar : Grammar) (scan : Scan) (arg : String) : Fault :=
  if grammar.subcommands.isEmpty then .unknownArgument
  else if scan.trailing && (arg = "help" || (grammar.subcommand? arg).isSome) then
    .unknownArgument
  else .invalidSubcommand

/-- Whether there is a position for one more value. -/
def hasRoom (grammar : Grammar) (scan : Scan) : Bool :=
  scan.operands.length < grammar.operands.length ||
    grammar.operands.getLast?.any Operand.many

/-- Meets a value by position. -/
def operand (grammar : Grammar) (scan : Scan) (arg : String) : Except Fault Scan := do
  if scan.hasRoom grammar then
    let scan ← scan.settle
    return { scan with operands := scan.operands ++ [arg] }
  else throw (scan.surplus grammar arg)

/-- Meets an argument that is no subcommand. -/
def meet (grammar : Grammar) (scan : Scan) (arg : String) : Except Fault Scan :=
  if scan.trailing then scan.operand grammar arg
  else
    match arg.toList, scan.expecting, scan.pending with
    | ['-', '-'], _, _ => .ok { scan with trailing := true }
    | '-' :: '-' :: body, _, _ => scan.long grammar body
    | '-' :: letter :: rest, _, _ => scan.short grammar (letter :: rest)
    | _, true, some (switch, values) =>
        .ok { scan with pending := some (switch, values ++ [arg]), expecting := false }
    | _, _, _ => scan.operand grammar arg

/-- Shares the values by position out among the operands. -/
def share : List Operand → List String → List (String × List String)
  | [], _ => []
  | _, [] => []
  | operand :: rest, value :: values =>
      if operand.many then [(operand.name, value :: values)]
      else (operand.name, [value]) :: share rest values

/-- Checks the values by position. -/
def checkOperands (operands : List Operand) (shared : List (String × List String)) :
    Except Fault Unit :=
  operands.forM fun operand =>
    match shared.lookup operand.name with
    | some values => values.forM operand.form.check
    | none => if operand.required then .error .missingArgument else .ok ()

/-- The values that hold where none are given. -/
def fallbacks (grammar : Grammar) : List (String × List String) :=
  grammar.switches.filterMap fun switch =>
    (switch.preset.or switch.default).map fun value => (switch.name, [value])

/-- Checks the values from elsewhere, where none are given. -/
def checkPresets (grammar : Grammar) (scan : Scan) : Except Fault Unit :=
  grammar.switches.forM fun switch =>
    match switch.preset with
    | some value =>
        if (scan.given.lookup switch.name).isSome then .ok () else switch.form.check value
    | none => .ok ()

/-- Whether no option has a value, neither given nor from elsewhere. -/
def isBare (grammar : Grammar) (scan : Scan) : Bool :=
  scan.given.isEmpty && grammar.switches.all fun switch => switch.preset.isNone

/-- What a command line comes to that was read to its end. -/
def finish (grammar : Grammar) (scan : Scan) (subcommand : Option (String × Matches)) :
    Except Fault Matches := do
  let scan ← scan.settle
  scan.checkPresets grammar
  let shared := share grammar.operands scan.operands
  if subcommand.isNone && !grammar.subcommands.isEmpty then
    throw (if scan.isBare grammar then .nothingGiven else .missingSubcommand)
  checkOperands grammar.operands shared
  return .mk (scan.given ++ shared) (fallbacks grammar) subcommand

end Scan

/-- Reads the arguments that are left. -/
def readFrom (grammar : Grammar) (scan : Scan) : List String → Except Fault Matches
  | [] => scan.finish grammar none
  | arg :: rest =>
      let command := !scan.trailing && !scan.expecting
      match grammar.subcommand? arg with
      | some inner =>
          if command then do
            let found ← readFrom inner {} rest
            scan.finish grammar (some (arg, found))
          else do readFrom grammar (← scan.meet grammar arg) rest
      | none =>
          if command && arg = "help" && !grammar.subcommands.isEmpty then
            .error (grammar.helpOn rest)
          else do readFrom grammar (← scan.meet grammar arg) rest

/-- Reads a command line. -/
def read (grammar : Grammar) (args : List String) : Except Fault Matches :=
  readFrom grammar {} args

end TopicReplay.Arguments
