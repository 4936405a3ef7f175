import TopicReplay.Text.Blank
import TopicReplay.Text.Integer
import TopicReplay.Time.Instant

/-!
# Layouts of dates and times

A layout is a list of items that a text has to follow from its first character to
its last. Exact fields take a fixed number of digits. Loose fields skip white
space, take at most so many digits, and let a year carry a sign and then have any
number of digits. `rfc3339` is the exact layout of that standard, `rfc3339Loose`
its loose counterpart, and the rest are layouts without a zone, which mean UTC.
-/

namespace TopicReplay.Time

open TopicReplay.Text

/-- A numeric part of a date and time. -/
inductive Field where
  | year
  | month
  | day
  | hour
  | minute
  | second
  deriving DecidableEq, Repr

/-- One item of a layout. -/
inductive Item where
  /-- So many digits, no more and no fewer. -/
  | exact (field : Field) (width : Nat)
  /-- White space, then at most so many digits; a year may have a sign. -/
  | loose (field : Field) (width : Nat)
  /-- This character. -/
  | literal (c : Char)
  /-- One of these characters. -/
  | oneOf (cs : List Char)
  /-- Any amount of white space. -/
  | blanks
  /-- A point and digits, or nothing. -/
  | fraction
  /-- The letter of UTC, or hours and minutes with a colon between them. -/
  | zone
  /-- As `zone`, or the name of UTC, with white space before it and with any
  number of colons and blanks between hours and minutes. -/
  | looseZone
  deriving DecidableEq, Repr

/-- What a layout has read. -/
structure Reading where
  year : Int := 0
  month : Nat := 0
  day : Nat := 0
  hour : Nat := 0
  minute : Nat := 0
  second : Nat := 0
  nanos : Nat := 0
  offset : Int := 0
  deriving DecidableEq, Repr

/-- Why a text does not follow a layout. -/
inductive Fault where
  /-- A number, or the date and time of all numbers, does not exist. -/
  | outOfRange
  /-- The instant lies beyond the representable years. -/
  | impossible
  /-- A character stands where the layout wants another. -/
  | invalid
  | tooShort
  | tooLong
  deriving DecidableEq, Repr

/-- The text of a fault. -/
def Fault.text : Fault → String
  | .outOfRange => "input is out of range"
  | .impossible => "no possible date and time matching input"
  | .invalid => "input contains invalid characters"
  | .tooShort => "premature end of input"
  | .tooLong => "trailing input"

/-- The least and the greatest number that may stand in a field. -/
def Field.bounds : Field → Int × Int
  | .year => (minInt32, maxInt32)
  | .month => (1, 12)
  | .day => (1, 31)
  | .hour => (0, 23)
  | .minute => (0, 59)
  | .second => (0, 60)

/-- The greatest distance from UTC, in seconds. -/
def maxOffset : Int := 86340

namespace Reading

/-- Stores a number that is within the bounds of its field. Only a year can be negative. -/
def store (reading : Reading) (field : Field) (value : Int) : Reading :=
  match field with
  | .year => { reading with year := value }
  | .month => { reading with month := value.toNat }
  | .day => { reading with day := value.toNat }
  | .hour => { reading with hour := value.toNat }
  | .minute => { reading with minute := value.toNat }
  | .second => { reading with second := value.toNat }

/-- Stores a number in a field, if it may stand there. -/
def set (reading : Reading) (field : Field) (value : Int) : Except Fault Reading :=
  if field.bounds.1 ≤ value ∧ value ≤ field.bounds.2 then .ok (reading.store field value)
  else .error .outOfRange

/-- The date and time that were read. -/
def toCivil (reading : Reading) : Civil where
  date := ⟨reading.year, reading.month, reading.day⟩
  hour := reading.hour
  minute := reading.minute
  second := reading.second
  nanos := reading.nanos

/-- The instant that was read. -/
def toInstant (reading : Reading) : Except Fault Instant :=
  if reading.toCivil.isValid ∧ reading.offset.natAbs ≤ maxOffset then
    match reading.toCivil.toInstant? reading.offset with
    | some t => .ok t
    | none => .error .impossible
  else .error .outOfRange

end Reading

/-- The fault of a text that ends, or goes on with another character, where a
character is missing. -/
def missing : List Char → Fault
  | [] => .tooShort
  | _ => .invalid

/-- The number of the digits at the front, at least `least` and at most `most` of them. -/
def takeNumber (least most : Nat) (cs : List Char) : Except Fault (Nat × List Char) :=
  let run := (cs.takeWhile isDigit).take most
  if run.length < least then .error (missing (cs.drop run.length))
  else .ok ((digitsFrom 0 run).getD 0, cs.drop run.length)

/-- A number that may have a sign, and then any number of digits. -/
def takeSigned (most : Nat) (cs : List Char) : Except Fault (Int × List Char) :=
  match cs with
  | '-' :: rest => (takeNumber 1 rest.length rest).map fun (n, rest) => (-(n : Int), rest)
  | '+' :: rest => (takeNumber 1 rest.length rest).map fun (n, rest) => ((n : Int), rest)
  | cs => (takeNumber 1 most cs).map fun (n, rest) => ((n : Int), rest)

/-- The nanoseconds of the digits after a point; digits past the ninth are dropped. -/
def takeFraction (cs : List Char) : Except Fault (Nat × List Char) :=
  let run := cs.takeWhile isDigit
  let kept := run.take 9
  if run.isEmpty then .error (missing cs)
  else .ok ((digitsFrom 0 kept).getD 0 * Nat.pow 10 (9 - kept.length), cs.drop run.length)

/-- Two digits. A text that ends after one ASCII character is too short. -/
def takePair (cs : List Char) : Except Fault (Nat × List Char) :=
  match cs with
  | [] => .error .tooShort
  | [c] => .error (if c.toNat < 128 then .tooShort else .invalid)
  | a :: b :: rest =>
      match digitValue? a, digitValue? b with
      | some tens, some ones => .ok (10 * tens + ones, rest)
      | _, _ => .error .invalid

/-- The direction from UTC that a sign means. -/
def takeSign : List Char → Except Fault (Int × List Char)
  | '+' :: rest => .ok (1, rest)
  | '-' :: rest => .ok (-1, rest)
  | '\u2212' :: rest => .ok (-1, rest)
  | cs => .error (missing cs)

/-- An offset from UTC in seconds: a sign, two digits of hours, a separator that
`dropSeparator` takes away, and two digits of minutes. -/
def takeOffset (dropSeparator : List Char → Except Fault (List Char)) (cs : List Char) :
    Except Fault (Int × List Char) := do
  let (sign, rest) ← takeSign cs
  let (hours, rest) ← takePair rest
  let rest ← dropSeparator rest
  let (minutes, rest) ← takePair rest
  if minutes < 60 then return (sign * (hours * 3600 + minutes * 60), rest)
  else throw .outOfRange

/-- A zone: the letter of UTC or an offset. -/
def takeZone (dropSeparator : List Char → Except Fault (List Char)) (cs : List Char) :
    Except Fault (Int × List Char) :=
  match cs with
  | 'Z' :: rest => .ok (0, rest)
  | 'z' :: rest => .ok (0, rest)
  | cs => takeOffset dropSeparator cs

/-- Drops one of these characters. -/
def dropOne (choices : List Char) : List Char → Except Fault (List Char)
  | [] => .error .tooShort
  | c :: rest => if c ∈ choices then .ok rest else .error .invalid

/-- Drops colons and white space. -/
def dropColons (cs : List Char) : Except Fault (List Char) :=
  .ok (cs.dropWhile fun c => c == ':' || isBlank c)

/-- Whether three characters are the name of UTC in any case. -/
def isUtcName (a b c : Char) : Bool :=
  a.toUpper == 'U' && b.toUpper == 'T' && c.toUpper == 'C'

/-- A zone after white space, or the name of UTC. -/
def takeLooseZone (cs : List Char) : Except Fault (Int × List Char) :=
  match trimLeft cs with
  | a :: b :: c :: rest =>
      if isUtcName a b c then .ok (0, rest) else takeZone dropColons (a :: b :: c :: rest)
  | cs => takeZone dropColons cs

/-- Stores a number that was read, and passes the rest of the text on. -/
def Reading.keep (reading : Reading) (field : Field) (read : Int × List Char) :
    Except Fault (Reading × List Char) :=
  (reading.set field read.1).map fun reading => (reading, read.2)

/-- Follows one item of a layout. -/
def Item.take (item : Item) (reading : Reading) (cs : List Char) :
    Except Fault (Reading × List Char) :=
  match item with
  | .exact field width => do
      let (n, rest) ← takeNumber width width cs
      reading.keep field (n, rest)
  | .loose .year width => do
      let read ← takeSigned width (trimLeft cs)
      reading.keep .year read
  | .loose field width => do
      let (n, rest) ← takeNumber 1 width (trimLeft cs)
      reading.keep field (n, rest)
  | .literal c => (dropOne [c] cs).map fun rest => (reading, rest)
  | .oneOf choices => (dropOne choices cs).map fun rest => (reading, rest)
  | .blanks => .ok (reading, trimLeft cs)
  | .fraction =>
      match cs with
      | '.' :: rest => (takeFraction rest).map fun (n, rest) => ({ reading with nanos := n }, rest)
      | cs => .ok (reading, cs)
  | .zone =>
      (takeZone (dropOne [':']) cs).map fun (offset, rest) => ({ reading with offset }, rest)
  | .looseZone => (takeLooseZone cs).map fun (offset, rest) => ({ reading with offset }, rest)

/-- A layout of dates and times. -/
abbrev Layout := List Item

namespace Layout

/-- Follows the items one after the other. -/
def take : Layout → Reading → List Char → Except Fault (Reading × List Char)
  | [], reading, cs => .ok (reading, cs)
  | item :: items, reading, cs =>
      match item.take reading cs with
      | .ok (reading, rest) => take items reading rest
      | .error fault => .error fault

/-- The instant that a text means when it follows the layout to its end. -/
def read (layout : Layout) (cs : List Char) : Except Fault Instant :=
  match layout.take {} cs with
  | .ok (reading, []) => reading.toInstant
  | .ok _ => .error .tooLong
  | .error fault => .error fault

/-- The instant of the first of these layouts that a text follows. -/
def readFirst? (layouts : List Layout) (cs : List Char) : Option Instant :=
  layouts.findSome? fun layout => (layout.read cs).toOption

/-- The layout of RFC 3339, where a blank may stand for the `T`. -/
def rfc3339 : Layout :=
  [.exact .year 4, .literal '-', .exact .month 2, .literal '-', .exact .day 2,
    .oneOf ['T', 't', ' '], .exact .hour 2, .literal ':', .exact .minute 2, .literal ':',
    .exact .second 2, .fraction, .zone]

/-- RFC 3339 with white space between its parts, short numbers and signed years. -/
def rfc3339Loose : Layout :=
  [.loose .year 4, .blanks, .literal '-', .loose .month 2, .blanks, .literal '-', .loose .day 2,
    .oneOf ['T', 't', ' '], .loose .hour 2, .blanks, .literal ':', .loose .minute 2, .blanks,
    .literal ':', .loose .second 2, .fraction, .blanks, .looseZone, .blanks]

/-- A date by itself, which means its first instant. -/
def date : Layout :=
  [.loose .year 4, .literal '-', .loose .month 2, .literal '-', .loose .day 2]

/-- A date, a separator, hours and minutes. -/
def minutes (separator : Item) : Layout :=
  date ++ [separator, .loose .hour 2, .literal ':', .loose .minute 2]

/-- A date, a separator, hours, minutes, seconds and perhaps a fraction. -/
def seconds (separator : Item) : Layout :=
  minutes separator ++ [.literal ':', .loose .second 2, .fraction]

/-- The layouts without a zone. -/
def naive : List Layout :=
  [seconds (.literal 'T'), seconds .blanks, minutes (.literal 'T'), minutes .blanks, date]

end Layout

end TopicReplay.Time
