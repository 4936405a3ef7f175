import TopicReplay.Decimal.Numeral
import TopicReplay.Json.Overlay
import TopicReplay.Text.Blank
import TopicReplay.Text.Hex

/-!
# Settings in environment variables

A variable sets a value of the configuration if its name begins with `KREPLAY_`,
in any case. The rest of the name is the path to the value, in which two
underscores, or a point, lead into an object.

The text of a variable may be a truth value, a whole number, a number with a
point, a list in brackets, an object in braces with an equals sign between name
and value, a string in double quotes, or one character in single quotes. Any
other text stands for itself.
-/

namespace TopicReplay.Config.Variables

open Text (isAsciiBlank)

/-! ## Values -/

/-- The character that an escape with one letter means. -/
def letterEscape? : Char → Option Char
  | 'b' => some '\x08'
  | 't' => some '\t'
  | 'n' => some '\n'
  | 'f' => some '\x0c'
  | 'r' => some '\r'
  | '"' => some '"'
  | '\\' => some '\\'
  | _ => none

/-- Whether a character may stand in a quoted string as it is. -/
def isPlain (c : Char) : Bool := c == '\t' || (0x20 ≤ c.toNat && c.toNat != 0x7F)

/-- Reads a quoted string from behind its opening quote. -/
def quoted? : Nat → List Char → Option (List Char × List Char)
  | 0, _ => none
  | _ + 1, [] => none
  | _ + 1, '"' :: rest => some ([], rest)
  | fuel + 1, '\\' :: 'u' :: rest => do
      let (c, rest) ← Text.takeHexChar 4 rest
      let (cs, rest) ← quoted? fuel rest
      return (c :: cs, rest)
  | fuel + 1, '\\' :: 'U' :: rest => do
      let (c, rest) ← Text.takeHexChar 8 rest
      let (cs, rest) ← quoted? fuel rest
      return (c :: cs, rest)
  | _ + 1, '\\' :: [] => none
  | fuel + 1, '\\' :: letter :: rest => do
      let c ← letterEscape? letter
      let (cs, rest) ← quoted? fuel rest
      return (c :: cs, rest)
  | fuel + 1, c :: rest =>
      if isPlain c then (quoted? fuel rest).map fun (cs, rest) => (c :: cs, rest) else none

/-- Whether a character ends a text without quotes. -/
def isSeparator (c : Char) : Bool :=
  c == ',' || c == '[' || c == ']' || c == '\x7b' || c == '\x7d'

/-- Whether a character may stand in a name without quotes. -/
def isNameChar (c : Char) : Bool := c.isAlphanum || c == '_' || c == '-'

/-- A whole number that fits 64 bits, with or without a sign. -/
def whole? (cs : List Char) : Option Int :=
  ((Text.uint64? cs).map Int.ofNat).or (Text.int64? cs)

/-- The value of a text without quotes. -/
def bare (cs : List Char) : Json :=
  match whole? cs with
  | some n => .int n
  | none =>
      if '.' ∈ cs ∧ (Decimal.Numeral.parse? cs).isSome then .real (String.ofList cs)
      else .string (String.ofList cs)

/-- Drops white space at the front. -/
def skip (cs : List Char) : List Char := cs.dropWhile isAsciiBlank

/-- Reads a name and the equals sign behind it. -/
def name? (cs : List Char) : Option (String × List Char) := do
  let (name, rest) ←
    match skip cs with
    | '"' :: rest => quoted? (rest.length + 1) rest
    | cs =>
        let (name, rest) := cs.span isNameChar
        if name.isEmpty then none else some (name, rest)
  match skip rest with
  | '=' :: rest => return (String.ofList name, rest)
  | _ => none

mutual

/-- Reads a value and the white space around it. A truth value ends where its word
does, whatever follows. -/
def value? : Nat → List Char → Option (Json × List Char)
  | 0, _ => none
  | fuel + 1, cs =>
      match skip cs with
      | 't' :: 'r' :: 'u' :: 'e' :: rest => some (.bool true, skip rest)
      | 'f' :: 'a' :: 'l' :: 's' :: 'e' :: rest => some (.bool false, skip rest)
      | '"' :: rest => do
          let (s, rest) ← quoted? (rest.length + 1) rest
          return (.string (String.ofList s), skip rest)
      | '[' :: rest => do
          let (items, rest) ← items? fuel rest
          return (.array items, skip rest)
      | '\x7b' :: rest => do
          let (members, rest) ← members? fuel [] rest
          return (.object members, skip rest)
      | '\'' :: c :: '\'' :: rest => some (.string (String.singleton c), skip rest)
      | '\'' :: _ => none
      | cs =>
          let (text, rest) := cs.span fun c => !isSeparator c
          some (bare (Text.trim text), rest)

/-- Reads the items of a list from behind its bracket. -/
def items? : Nat → List Char → Option (List Json × List Char)
  | 0, _ => none
  | _ + 1, ']' :: rest => some ([], rest)
  | fuel + 1, cs => do
      let (item, rest) ← value? fuel cs
      match rest with
      | ',' :: rest =>
          let (items, rest) ← items? fuel rest
          return (item :: items, rest)
      | ']' :: rest => return ([item], rest)
      | _ => none

/-- Reads the members of an object from behind its brace. Of equal names the last
one counts. -/
def members? (fuel : Nat) (before : List (String × Json)) (cs : List Char) :
    Option (List (String × Json) × List Char) :=
  match fuel, cs with
  | 0, _ => none
  | _ + 1, '\x7d' :: rest => some (before, rest)
  | fuel + 1, cs => do
      let (name, rest) ← name? cs
      let (value, rest) ← value? fuel rest
      let members := Json.setMember name value before
      match rest with
      | ',' :: rest => members? fuel members rest
      | '\x7d' :: rest => return (members, rest)
      | _ => none

end

/-- The value of a variable. A text that goes on behind a value stands for itself. -/
def value (text : String) : Json :=
  match value? (2 * text.length + 2) text.toList with
  | some (json, []) => json
  | _ => .string text

/-! ## Names -/

/-- What the names of the variables begin with. -/
def start : String := "KREPLAY_"

/-- The names on a path, where two underscores stand for a point. -/
def segments (current : List Char) : List Char → List (List Char)
  | '_' :: '_' :: cs => current.reverse :: segments [] cs
  | '.' :: cs => current.reverse :: segments [] cs
  | c :: cs => segments (c :: current) cs
  | [] => [current.reverse]

/-- The path that a name leads along, if it is the name of a setting. -/
def path? (name : String) : Option (List String) :=
  let cs := Text.trim name.toList
  let opening := start.toList
  if (cs.take opening.length).map Char.toUpper = opening then
    let path := segments [] (Text.trim (cs.drop opening.length))
    if path.any List.isEmpty then none
    else some (path.map fun segment => String.ofList (segment.map Char.toLower))
  else none

/-- The values that variables set, of which later ones lie over earlier ones. -/
def layer (environment : List (String × String)) : Json :=
  environment.foldl (fun json (name, text) =>
    match path? name with
    | some path => json.overlay (.nest path (value text))
    | none => json) (.object [])

end TopicReplay.Config.Variables
