import TopicReplay.Json.Value
import TopicReplay.Text.Utf8

/-!
# JSON as it is read

A text is read as a draft: the value as far as the text is well formed, with the
fault in the place where reading stopped. A reader of some kind of value goes
through the draft in the order of the text and meets what is wrong with the kind
of value, or with the text, whichever comes first.

Two faults are no matter of form and stand within the draft, where reading went
on: a number too great to be one, and half of a surrogate pair.
-/

namespace TopicReplay.Json

/-- What can be wrong with a text. -/
inductive FaultKind where
  | endInList
  | endInObject
  | endInString
  | endInValue
  | endInNumber
  | colonMissing
  | listSeparatorMissing
  | objectSeparatorMissing
  | wordMisspelt
  | valueMissing
  | badEscape
  | badNumber
  | numberTooGreat
  | controlCharacter
  | keyNoString
  | loneSurrogate
  | surrogateCut
  | trailingComma
  | trailingCharacters
  | tooDeep
  deriving DecidableEq, Repr

/-- Whether a text is at fault only because it ends. -/
def FaultKind.isEnd : FaultKind → Bool
  | .endInList | .endInObject | .endInString | .endInValue | .endInNumber => true
  | _ => false

/-- The text of a fault. -/
def FaultKind.text : FaultKind → String
  | .endInList => "EOF while parsing a list"
  | .endInObject => "EOF while parsing an object"
  | .endInString => "EOF while parsing a string"
  | .endInValue | .endInNumber => "EOF while parsing a value"
  | .colonMissing => "expected `:`"
  | .listSeparatorMissing => "expected `,` or `]`"
  | .objectSeparatorMissing => "expected `,` or `\x7d`"
  | .wordMisspelt => "expected ident"
  | .valueMissing => "expected value"
  | .badEscape => "invalid escape"
  | .badNumber => "invalid number"
  | .numberTooGreat => "number out of range"
  | .controlCharacter => "control character (\\u0000-\\u001F) found while parsing a string"
  | .keyNoString => "key must be a string"
  | .loneSurrogate => "lone leading surrogate in hex escape"
  | .surrogateCut => "unexpected end of hex escape"
  | .trailingComma => "trailing comma"
  | .trailingCharacters => "trailing characters"
  | .tooDeep => "recursion limit exceeded"

/-- A fault and its place: so many characters were left to read, and so many more
bytes had been looked at. -/
structure Fault where
  kind : FaultKind
  left : Nat
  looked : Nat := 0
  deriving DecidableEq, Repr

/-- The line and column of a place in a text, where the column counts the bytes of
the line up to and with the last one looked at. -/
def Fault.place (fault : Fault) (text : List Char) : Nat × Nat :=
  let before := text.take (text.length - fault.left)
  let line := before.reverse.takeWhile (· != '\n')
  let bytes := (Text.encodeUtf8 line).length
  let remaining := (Text.encodeUtf8 (text.drop before.length)).length
  (before.count '\n' + 1, bytes + min fault.looked remaining)

/-- The text of a fault with its place. -/
def Fault.message (fault : Fault) (text : List Char) : String :=
  let (line, column) := fault.place text
  fault.kind.text ++ " at line " ++ Text.decimalString line ++ " column " ++
    Text.decimalString column

/-- A number as it is read. -/
inductive Number where
  /-- A whole number that fits 64 bits, signed or unsigned. -/
  | int (n : Int)
  /-- Any other number, as it is written. -/
  | real (text : String)
  deriving DecidableEq, Repr

/-- A value as far as its text is well formed. -/
inductive Draft where
  | null
  | bool (b : Bool)
  | number (value : Except Fault Number)
  | string (value : Except Fault String)
  /-- Items, and the fault after them if the list goes wrong between two items. -/
  | array (items : List Draft) (rest : Option Fault)
  /-- Members, and the fault after them if the object goes wrong between two members. -/
  | object (members : List (Except Fault String × Draft)) (rest : Option Fault)
  /-- A value that cannot be read. -/
  | broken (fault : Fault)
  deriving Repr, Inhabited

namespace Draft

mutual

/-- A value as a draft without faults. -/
def ofJson : Json → Draft
  | .null => .null
  | .bool b => .bool b
  | .int n => .number (.ok (.int n))
  | .real text => .number (.ok (.real text))
  | .string s => .string (.ok s)
  | .array items => .array (ofItems items) none
  | .object members => .object (ofMembers members) none

/-- The items of an array as drafts. -/
def ofItems : List Json → List Draft
  | [] => []
  | item :: rest => ofJson item :: ofItems rest

/-- The members of an object as drafts. -/
def ofMembers : List (String × Json) → List (Except Fault String × Draft)
  | [] => []
  | (key, value) :: rest => (.ok key, ofJson value) :: ofMembers rest

end

mutual

/-- The value of a draft, or the first thing that is wrong with its text. -/
def toJson : Draft → Except Fault Json
  | .null => .ok .null
  | .bool b => .ok (.bool b)
  | .number (.ok (.int n)) => .ok (.int n)
  | .number (.ok (.real text)) => .ok (.real text)
  | .number (.error fault) => .error fault
  | .string (.ok s) => .ok (.string s)
  | .string (.error fault) => .error fault
  | .array items rest => do
      let items ← toItems items
      if let some fault := rest then throw fault
      return .array items
  | .object members rest => do
      let members ← toMembers members
      if let some fault := rest then throw fault
      return .object members
  | .broken fault => .error fault

/-- The values of items. -/
def toItems : List Draft → Except Fault (List Json)
  | [] => .ok []
  | item :: rest => do
      let item ← toJson item
      return item :: (← toItems rest)

/-- The values of members. -/
def toMembers : List (Except Fault String × Draft) → Except Fault (List (String × Json))
  | [] => .ok []
  | (key, value) :: rest => do
      let key ← key
      let value ← toJson value
      return (key, value) :: (← toMembers rest)

end

mutual

/-- The fault in the form of a value that nobody asks for. A number that breaks off
counts as misformed there. -/
def formFault? : Draft → Option Fault
  | .array items rest => (itemsFault? items).or rest
  | .object members rest => (membersFault? members).or rest
  | .broken fault =>
      some (if fault.kind = .endInNumber then { fault with kind := .badNumber } else fault)
  | _ => none

/-- The first fault in the form of items. -/
def itemsFault? : List Draft → Option Fault
  | [] => none
  | item :: rest => (formFault? item).or (itemsFault? rest)

/-- The first fault in the form of members. -/
def membersFault? : List (Except Fault String × Draft) → Option Fault
  | [] => none
  | (_, value) :: rest => (formFault? value).or (membersFault? rest)

end

end Draft

/-- Why a text does not give the kind of value that was asked for. -/
inductive Failure where
  /-- The text is at fault. -/
  | form (fault : Fault)
  /-- The text is well formed so far, and the value is of another kind. -/
  | kind
  deriving DecidableEq, Repr

namespace Draft

/-- The failure of a value that is not of the kind asked for. A simple value is
read to its end before its kind is looked at, a list or an object is not. -/
def mismatch : Draft → Failure
  | .broken fault => .form fault
  | .number (.error fault) => .form fault
  | .string (.error fault) => .form fault
  | _ => .kind

/-- A string. -/
def asString : Draft → Except Failure String
  | .string (.ok s) => .ok s
  | other => .error other.mismatch

/-- A whole number within bounds. -/
def asInt (least greatest : Int) : Draft → Except Failure Int
  | .number (.ok (.int n)) => if least ≤ n ∧ n ≤ greatest then .ok n else .error .kind
  | other => .error other.mismatch

/-- A value or `null`. -/
def asOption {α : Type} (read : Draft → Except Failure α) : Draft → Except Failure (Option α)
  | .null => .ok none
  | other => (read other).map some

/-- The items of a list, each read in turn. -/
def readItems {α : Type} (read : Draft → Except Failure α) : List Draft → Except Failure (List α)
  | [] => .ok []
  | item :: rest => do
      let item ← read item
      return item :: (← readItems read rest)

/-- A list. -/
def asList {α : Type} (read : Draft → Except Failure α) : Draft → Except Failure (List α)
  | .array items rest => do
      let items ← readItems read items
      if let some fault := rest then throw (.form fault)
      return items
  | other => .error other.mismatch

/-- Passes over a value that nobody asks for. -/
def skip (draft : Draft) : Except Failure Unit :=
  match draft.formFault? with
  | some fault => .error (.form fault)
  | none => .ok ()

/-- The key of a member. -/
def readKey (key : Except Fault String) : Except Failure String := key.mapError .form

end Draft

end TopicReplay.Json
