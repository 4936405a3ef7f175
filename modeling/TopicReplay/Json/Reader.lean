import TopicReplay.Decimal.Numeral
import TopicReplay.Json.Draft

/-!
# Reading JSON

The reader follows the grammar of JSON and stops at the first fault in the form
of the text. It has no limit of its own to how deep lists and objects nest, but
can be given one.
-/

namespace TopicReplay.Json.Reader

open Text (isDigit digitsFrom)

/-- Whether a character may stand between the parts of a value. -/
def isSpace (c : Char) : Bool := c == ' ' || c == '\n' || c == '\t' || c == '\r'

/-- Drops the white space at the front. -/
def skipSpace (cs : List Char) : List Char := cs.dropWhile isSpace

/-- A fault noticed at the next character, or at the end of the text. -/
def faultAt (kind : FaultKind) (cs : List Char) : Fault := ⟨kind, cs.length, 1⟩

/-- The first fault, at the end of a text, and else the second one, at the next character. -/
def endOr (atEnd other : FaultKind) : List Char → Fault
  | [] => ⟨atEnd, 0, 0⟩
  | cs => faultAt other cs

/-- The value of four hexadecimal digits. -/
def hex4? (a b c d : Char) : Option Nat := do
  let digit (c : Char) : Option Nat :=
    if '0' ≤ c ∧ c ≤ '9' then some (c.toNat - 48)
    else if 'a' ≤ c ∧ c ≤ 'f' then some (c.toNat - 87)
    else if 'A' ≤ c ∧ c ≤ 'F' then some (c.toNat - 55)
    else none
  return (← digit a) * 4096 + (← digit b) * 256 + (← digit c) * 16 + (← digit d)

/-- The four hexadecimal digits of an escape. -/
def takeHex (cs : List Char) : Except Fault (Nat × List Char) :=
  match cs with
  | a :: b :: c :: d :: rest =>
      match hex4? a b c d with
      | some n => .ok (n, rest)
      | none => .error ⟨.badEscape, cs.length, 4⟩
  | _ =>
      if (Text.encodeUtf8 cs).length < 4 then .error ⟨.endInString, 0, 0⟩
      else .error ⟨.badEscape, cs.length, 4⟩

/-- The character that an escape with one letter means. -/
def letterEscape? : Char → Option Char
  | '"' => some '"'
  | '\\' => some '\\'
  | '/' => some '/'
  | 'b' => some '\x08'
  | 'f' => some '\x0c'
  | 'n' => some '\n'
  | 'r' => some '\r'
  | 't' => some '\t'
  | _ => none

/-- Whether a number is the first half of a surrogate pair. -/
def isLeading (n : Nat) : Bool := 0xD800 ≤ n && n ≤ 0xDBFF

/-- Whether a number is the second half of a surrogate pair. -/
def isTrailing (n : Nat) : Bool := 0xDC00 ≤ n && n ≤ 0xDFFF

/-- What a string has been read as: its characters, latest first, and the first
half of a surrogate pair that stands without the other. -/
structure Collected where
  chars : List Char := []
  fault : Option Fault := none

/-- Adds a character. -/
def Collected.push (collected : Collected) (c : Char) : Collected :=
  { collected with chars := c :: collected.chars }

/-- Notes a fault, of which the first counts. -/
def Collected.note (collected : Collected) (fault : Fault) : Collected :=
  { collected with fault := collected.fault.or (some fault) }

/-- The string that was collected. -/
def Collected.result (collected : Collected) : Except Fault String :=
  match collected.fault with
  | some fault => .error fault
  | none => .ok (String.ofList collected.chars.reverse)

/-- Reads the escape of a code unit, from behind its letter. The first half of a
pair wants the second one to follow at once. -/
def takeUnit (collected : Collected) (cs : List Char) : Except Fault (Collected × List Char) := do
  let (n, rest) ← takeHex cs
  if isTrailing n then return (collected.note ⟨.loneSurrogate, rest.length, 0⟩, rest)
  else if isLeading n then
    match rest with
    | [] => throw ⟨.endInString, 0, 0⟩
    | '\\' :: [] => throw ⟨.endInString, 0, 0⟩
    | '\\' :: 'u' :: second => do
        let (m, after) ← takeHex second
        if isTrailing m then
          return (collected.push (Char.ofNat ((n - 0xD800) * 1024 + (m - 0xDC00) + 0x10000)), after)
        else return (collected.note ⟨.loneSurrogate, after.length, 0⟩, rest)
    | '\\' :: other => return (collected.note (faultAt .surrogateCut other), rest)
    | other => return (collected.note (faultAt .surrogateCut other), rest)
  else return (collected.push (Char.ofNat n), rest)

/-- Reads a string from behind its opening quote. -/
def takeString : Nat → Collected → List Char → Except Fault (Except Fault String × List Char)
  | 0, _, _ => .error ⟨.endInString, 0, 0⟩
  | _ + 1, _, [] => .error ⟨.endInString, 0, 0⟩
  | fuel + 1, collected, c :: rest =>
      if c = '"' then .ok (collected.result, rest)
      else if c = '\\' then
        match rest with
        | [] => .error ⟨.endInString, 0, 0⟩
        | 'u' :: rest =>
            match takeUnit collected rest with
            | .ok (collected, rest) => takeString fuel collected rest
            | .error fault => .error (collected.fault.getD fault)
        | letter :: after =>
            match letterEscape? letter with
            | some meant => takeString fuel (collected.push meant) after
            | none => .error (collected.fault.getD (faultAt .badEscape rest))
      else if c.toNat < 0x20 then
        .error (collected.fault.getD (faultAt .controlCharacter (c :: rest)))
      else takeString fuel (collected.push c) rest

/-- Whether `digits` times ten to the power `exponent` is too great for double precision. -/
def isTooGreat (digits : Nat) (exponent : Int) : Bool :=
  !(Decimal.Numeral.isFinite ⟨false, digits, exponent⟩)

/-- The parts of a number as they are written. -/
structure Numeral where
  negative : Bool
  whole : List Char
  fraction : Option (List Char)
  exponent : Option (Bool × List Char)

/-- The value of a number as it is written. -/
def Numeral.value (numeral : Numeral) (text : List Char) (left : Nat) : Except Fault Number :=
  let whole := (digitsFrom 0 numeral.whole).getD 0
  match numeral.fraction, numeral.exponent with
  | none, none =>
      let n : Int := if numeral.negative then -(whole : Int) else whole
      let fits := if numeral.negative then whole ≠ 0 ∧ Text.minInt64 ≤ n else whole ≤ Text.maxUInt64
      if fits then .ok (.int n)
      else if isTooGreat whole 0 then .error ⟨.numberTooGreat, left, 0⟩
      else .ok (.real (String.ofList text))
  | fraction, exponent =>
      let places := fraction.getD []
      let digits := (digitsFrom whole places).getD 0
      let power : Int :=
        match exponent with
        | some (true, ds) => -((digitsFrom 0 ds).getD 0 : Int)
        | some (false, ds) => (digitsFrom 0 ds).getD 0
        | none => 0
      if isTooGreat digits (power - places.length) then .error ⟨.numberTooGreat, left, 0⟩
      else .ok (.real (String.ofList text))

/-- Reads the digits that a number needs at this place. -/
def takeDigits (cs : List Char) : Except Fault (List Char × List Char) :=
  match cs.takeWhile isDigit with
  | [] => .error (endOr .endInNumber .badNumber cs)
  | run => .ok (run, cs.drop run.length)

/-- Reads the fraction of a number, if there is one. -/
def takePoint (cs : List Char) : Except Fault (Option (List Char) × List Char) :=
  match cs with
  | '.' :: rest => (takeDigits rest).map fun (run, rest) => (some run, rest)
  | _ => .ok (none, cs)

/-- Reads the exponent of a number, if there is one. -/
def takePower (cs : List Char) : Except Fault (Option (Bool × List Char) × List Char) :=
  let signed (rest : List Char) : Except Fault (Option (Bool × List Char) × List Char) :=
    match rest with
    | '-' :: rest => (takeDigits rest).map fun (run, rest) => (some (true, run), rest)
    | '+' :: rest => (takeDigits rest).map fun (run, rest) => (some (false, run), rest)
    | rest => (takeDigits rest).map fun (run, rest) => (some (false, run), rest)
  match cs with
  | 'e' :: rest => signed rest
  | 'E' :: rest => signed rest
  | _ => .ok (none, cs)

/-- Reads the part of a number before its point. No digit may follow a zero. -/
def takeWhole (cs : List Char) : Except Fault (List Char × List Char) :=
  match cs with
  | '0' :: c :: rest =>
      if isDigit c then .error (faultAt .badNumber (c :: rest)) else .ok (['0'], c :: rest)
  | cs => takeDigits cs

/-- Reads a number from its sign or first digit on. -/
def takeNumber (cs : List Char) : Except Fault (Except Fault Number × List Char) := do
  let (negative, unsigned) :=
    match cs with
    | '-' :: rest => (true, rest)
    | cs => (false, cs)
  let (whole, rest) ← takeWhole unsigned
  let (fraction, rest) ← takePoint rest
  let (exponent, rest) ← takePower rest
  let text := cs.take (cs.length - rest.length)
  return (Numeral.value ⟨negative, whole, fraction, exponent⟩ text rest.length, rest)

/-- Reads the rest of a word. -/
def takeWord : List Char → List Char → Except Fault (List Char)
  | [], cs => .ok cs
  | _ :: _, [] => .error ⟨.endInValue, 0, 0⟩
  | w :: word, c :: rest =>
      if c = w then takeWord word rest else .error (faultAt .wordMisspelt (c :: rest))

/-- A draft with the text behind it, which is missing when reading has stopped. -/
abbrev Step := Draft × Option (List Char)

/-- A word that stands for a value. -/
def word (draft : Draft) (letters : String) (cs : List Char) : Step :=
  match takeWord letters.toList cs with
  | .ok rest => (draft, some rest)
  | .error fault => (.broken fault, none)

/-- A value that ends without reading on. -/
def stop (fault : Fault) : Step := (.broken fault, none)

mutual

/-- Reads a value. At most `depth` lists and objects may stand around another one. -/
def value : Nat → Nat → List Char → Step
  | 0, _, cs => stop (faultAt .tooDeep cs)
  | fuel + 1, depth, cs =>
      match skipSpace cs with
      | [] => stop ⟨.endInValue, 0, 0⟩
      | 'n' :: rest => word .null "ull" rest
      | 't' :: rest => word (.bool true) "rue" rest
      | 'f' :: rest => word (.bool false) "alse" rest
      | '"' :: rest =>
          match takeString (rest.length + 1) {} rest with
          | .ok (s, rest) => (.string s, some rest)
          | .error fault => stop fault
      | '[' :: rest =>
          match depth with
          | 0 => stop (faultAt .tooDeep ('[' :: rest))
          | depth + 1 =>
              match skipSpace rest with
              | ']' :: rest => (.array [] none, some rest)
              | [] => (.array [] (some ⟨.endInList, 0, 0⟩), none)
              | rest => items fuel depth [] rest
      | '\x7b' :: rest =>
          match depth with
          | 0 => stop (faultAt .tooDeep ('\x7b' :: rest))
          | depth + 1 =>
              match skipSpace rest with
              | '\x7d' :: rest => (.object [] none, some rest)
              | [] => (.object [] (some ⟨.endInObject, 0, 0⟩), none)
              | rest => members fuel depth [] rest
      | c :: rest =>
          if c = '-' || isDigit c then
            match takeNumber (c :: rest) with
            | .ok (n, rest) => (.number n, some rest)
            | .error fault => stop fault
          else stop (faultAt .valueMissing (c :: rest))

/-- Reads the items of a list from the start of one on; `found` holds those before, latest first. -/
def items : Nat → Nat → List Draft → List Char → Step
  | 0, _, found, cs => (.array found.reverse (some (faultAt .tooDeep cs)), none)
  | fuel + 1, depth, found, cs =>
      match value fuel depth cs with
      | (item, none) => (.array (item :: found).reverse none, none)
      | (item, some rest) =>
          let found := item :: found
          match skipSpace rest with
          | ']' :: rest => (.array found.reverse none, some rest)
          | ',' :: rest =>
              match skipSpace rest with
              | ']' :: rest =>
                  (.array found.reverse (some (faultAt .trailingComma (']' :: rest))), none)
              | rest => items fuel depth found rest
          | rest =>
              (.array found.reverse (some (endOr .endInList .listSeparatorMissing rest)), none)

/-- Reads the members of an object from the start of one on; `found` holds those
before, latest first. -/
def members : Nat → Nat → List (Except Fault String × Draft) → List Char → Step
  | 0, _, found, cs => (.object found.reverse (some (faultAt .tooDeep cs)), none)
  | fuel + 1, depth, found, cs =>
      match cs with
      | '"' :: rest =>
          match takeString (rest.length + 1) {} rest with
          | .error fault => (.object found.reverse (some fault), none)
          | .ok (key, rest) =>
              match skipSpace rest with
              | ':' :: rest =>
                  match value fuel depth rest with
                  | (item, none) => (.object ((key, item) :: found).reverse none, none)
                  | (item, some rest) =>
                      let found := (key, item) :: found
                      match skipSpace rest with
                      | '\x7d' :: rest => (.object found.reverse none, some rest)
                      | ',' :: rest =>
                          match skipSpace rest with
                          | '\x7d' :: rest =>
                              (.object found.reverse
                                (some (faultAt .trailingComma ('\x7d' :: rest))), none)
                          | [] => (.object found.reverse (some ⟨.endInValue, 0, 0⟩), none)
                          | rest => members fuel depth found rest
                      | rest =>
                          (.object found.reverse
                            (some (endOr .endInObject .objectSeparatorMissing rest)), none)
              | rest =>
                  let fault := endOr .endInObject .colonMissing rest
                  (.object ((key, .broken fault) :: found).reverse none, none)
      | cs => (.object found.reverse (some (faultAt .keyNoString cs)), none)

end

/-- Reads a text that is one value: the draft of the value, and the fault of what
stands behind it. -/
def document (depth : Nat) (text : List Char) : Draft × Option Fault :=
  match value (2 * text.length + 2) depth text with
  | (draft, none) => (draft, none)
  | (draft, some rest) =>
      match skipSpace rest with
      | [] => (draft, none)
      | rest => (draft, some (faultAt .trailingCharacters rest))

/-- How many lists and objects may stand around another value in a text of no
particular kind. -/
def generalDepth : Nat := 127

/-- The value of a text, or the first thing that is wrong with it. -/
def json (text : List Char) : Except Fault Json := do
  let (draft, rest) := document generalDepth text
  let value ← draft.toJson
  if let some fault := rest then throw fault
  return value

/-- Reads a text as some kind of value, however deep it nests. -/
def readAs {α : Type} (read : Draft → Except Failure α) (text : List Char) : Except Failure α := do
  let (draft, rest) := document text.length text
  let value ← read draft
  if let some fault := rest then throw (.form fault)
  return value

end TopicReplay.Json.Reader
