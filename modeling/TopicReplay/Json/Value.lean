import TopicReplay.Text.Integer

/-!
# JSON values and their text

A JSON value keeps the members of its objects in order. Numbers are integers, as
all numbers that are written here are whole, or fractions kept as text. `compact`
writes a value on one line and `pretty` on many, indented by two blanks.
-/

namespace TopicReplay

/-- A JSON value. -/
inductive Json where
  | null
  | bool (b : Bool)
  | int (n : Int)
  /-- A number with a fraction or an exponent, as it is written. -/
  | real (text : String)
  | string (s : String)
  | array (items : List Json)
  | object (members : List (String × Json))
  deriving Repr, Inhabited

namespace Json

/-- The hexadecimal digit of a number below sixteen, in lower case. -/
def hexDigit (n : Nat) : Char := Nat.digitChar (n % 16)

/-- A character as it stands within a string. Quotes, backslashes and control
characters are escaped, with a letter where there is one. -/
def escapeChar (c : Char) : List Char :=
  if c = '"' then ['\\', '"']
  else if c = '\\' then ['\\', '\\']
  else if c = '\x08' then ['\\', 'b']
  else if c = '\t' then ['\\', 't']
  else if c = '\n' then ['\\', 'n']
  else if c = '\x0c' then ['\\', 'f']
  else if c = '\r' then ['\\', 'r']
  else if c.toNat < 0x20 then
    ['\\', 'u', '0', '0', hexDigit (c.toNat / 16), hexDigit c.toNat]
  else [c]

/-- A string with its quotes. -/
def quote (s : String) : List Char := '"' :: s.toList.flatMap escapeChar ++ ['"']

/-- A number of blanks. -/
def blanks (n : Nat) : List Char := List.replicate n ' '

mutual

/-- The text of a value on one line, without blanks. -/
def compact : Json → List Char
  | .null => "null".toList
  | .bool true => "true".toList
  | .bool false => "false".toList
  | .int n => Text.integer n
  | .real text => text.toList
  | .string s => quote s
  | .array items => '[' :: compactItems items ++ [']']
  | .object members => '\x7b' :: compactMembers members ++ ['\x7d']

/-- The texts of array items, with commas between them. -/
def compactItems : List Json → List Char
  | [] => []
  | [item] => compact item
  | item :: rest => compact item ++ ',' :: compactItems rest

/-- The texts of object members, with commas between them. -/
def compactMembers : List (String × Json) → List Char
  | [] => []
  | [(key, value)] => quote key ++ ':' :: compact value
  | (key, value) :: rest => quote key ++ ':' :: compact value ++ ',' :: compactMembers rest

end

mutual

/-- The text of a value on many lines, standing `indent` blanks to the right. -/
def prettyAt (indent : Nat) : Json → List Char
  | .array [] => "[]".toList
  | .array (item :: items) =>
      '[' :: prettyItems (indent + 2) (item :: items) ++ '\n' :: blanks indent ++ [']']
  | .object [] => ['\x7b', '\x7d']
  | .object (member :: members) =>
      '\x7b' :: prettyMembers (indent + 2) (member :: members) ++
        '\n' :: blanks indent ++ ['\x7d']
  | .null => compact .null
  | .bool b => compact (.bool b)
  | .int n => compact (.int n)
  | .real text => compact (.real text)
  | .string s => compact (.string s)

/-- The texts of array items, each on lines of its own. -/
def prettyItems (indent : Nat) : List Json → List Char
  | [] => []
  | [item] => '\n' :: blanks indent ++ prettyAt indent item
  | item :: rest =>
      '\n' :: blanks indent ++ prettyAt indent item ++ ',' :: prettyItems indent rest

/-- The texts of object members, each on lines of its own. -/
def prettyMembers (indent : Nat) : List (String × Json) → List Char
  | [] => []
  | [(key, value)] => '\n' :: blanks indent ++ quote key ++ ':' :: ' ' :: prettyAt indent value
  | (key, value) :: rest =>
      '\n' :: blanks indent ++ quote key ++ ':' :: ' ' :: prettyAt indent value ++
        ',' :: prettyMembers indent rest

end

/-- The text of a value on many lines. -/
def pretty (value : Json) : List Char := prettyAt 0 value

/-- The value of an option, `null` when there is none. -/
def ofOption {α : Type} (f : α → Json) : Option α → Json
  | some a => f a
  | none => .null

end Json

end TopicReplay
