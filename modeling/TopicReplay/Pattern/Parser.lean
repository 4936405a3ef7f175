import TopicReplay.Pattern.Basic
import TopicReplay.Text.Blank
import TopicReplay.Text.Unicode.Script

/-!
# Reading patterns

Patterns are written with the usual signs: `.`, `[..]` with nested classes and the
operations `&&`, `--` and `~~` on them, `(..)` with names or flags, `|`, `*`, `+`,
`?` and counts in braces, anchors, and escapes for characters, classes and
properties. There are no references back and no conditions on what stands around a
match.

A reader takes `fuel`, of which the length of the text is always enough.
-/

namespace TopicReplay.Pattern

open Text (CharSet isBlank)

/-- The flags that hold at a place of a pattern. -/
structure Flags where
  anyCase : Bool := false
  multiLine : Bool := false
  /-- Whether a dot also stands for a line feed. -/
  dotAll : Bool := false
  swapGreed : Bool := false
  /-- Whether classes speak of all characters, not of ASCII alone. -/
  unicode : Bool := true
  crlf : Bool := false
  /-- Whether white space and comments between signs mean nothing. -/
  spaced : Bool := false

/-- Drops the rest of a line. -/
def dropLine (cs : List Char) : List Char := (cs.dropWhile (· != '\n')).drop 1

/-- Drops white space and comments. -/
def dropSpace : Nat → List Char → List Char
  | 0, cs => cs
  | fuel + 1, cs =>
      match cs.dropWhile isBlank with
      | '#' :: rest => dropSpace fuel (dropLine rest)
      | rest => rest

/-- Drops what means nothing between signs. -/
def Flags.skip (flags : Flags) (cs : List Char) : List Char :=
  if flags.spaced then dropSpace cs.length cs else cs

/-- Sets a flag by its letter. -/
def Flags.set? (flags : Flags) (letter : Char) (value : Bool) : Option Flags :=
  match letter with
  | 'i' => some { flags with anyCase := value }
  | 'm' => some { flags with multiLine := value }
  | 's' => some { flags with dotAll := value }
  | 'U' => some { flags with swapGreed := value }
  | 'u' => some { flags with unicode := value }
  | 'R' => some { flags with crlf := value }
  | 'x' => some { flags with spaced := value }
  | _ => none

/-! ## Classes by name -/

/-- The digits, white space and word characters of ASCII. -/
def asciiPerl (letter : Char) : CharSet :=
  match letter with
  | 'd' => .within [(0x30, 0x39)]
  | 's' => .within [(0x09, 0x0D), (0x20, 0x20)]
  | _ => .within [(0x30, 0x39), (0x41, 0x5A), (0x5F, 0x5F), (0x61, 0x7A)]

/-- The word characters. -/
def Flags.wordChars (flags : Flags) : CharSet :=
  if flags.unicode then Text.Unicode.wordChars else asciiPerl 'w'

/-- The class of a letter `d`, `s` or `w`, or its complement for a capital one. A
complement needs all characters. -/
def Flags.perlClass? (flags : Flags) (letter : Char) : Option CharSet :=
  let small := letter.toLower
  if flags.unicode then
    let s : CharSet :=
      match small with
      | 'd' => .within (Text.Unicode.category "nd")
      | 's' => .within Text.blankRanges
      | _ => Text.Unicode.wordChars
    some (.complementIf letter.isUpper s)
  else if letter.isUpper then none
  else some (asciiPerl small)

/-- The classes of ASCII that have a name between colons. -/
def asciiClasses : List (String × CharSet) := [
  ("alnum", .within [(0x30, 0x39), (0x41, 0x5A), (0x61, 0x7A)]),
  ("alpha", .within [(0x41, 0x5A), (0x61, 0x7A)]),
  ("ascii", .within [(0x00, 0x7F)]),
  ("blank", .within [(0x09, 0x09), (0x20, 0x20)]),
  ("cntrl", .within [(0x00, 0x1F), (0x7F, 0x7F)]),
  ("digit", .within [(0x30, 0x39)]),
  ("graph", .within [(0x21, 0x7E)]),
  ("lower", .within [(0x61, 0x7A)]),
  ("print", .within [(0x20, 0x7E)]),
  ("punct", .within [(0x21, 0x2F), (0x3A, 0x40), (0x5B, 0x60), (0x7B, 0x7E)]),
  ("space", .within [(0x09, 0x0D), (0x20, 0x20)]),
  ("upper", .within [(0x41, 0x5A)]),
  ("word", asciiPerl 'w'),
  ("xdigit", .within [(0x30, 0x39), (0x41, 0x46), (0x61, 0x66)])]

/-- A name without case, blanks, hyphens, underscores and a first `is`. -/
def looseName (name : List Char) : String :=
  let kept := (name.filter fun c => c.toNat < 0x80 && c != ' ' && c != '-' && c != '_').map
    Char.toLower
  match kept with
  | ['i', 's', 'c'] => "isc"
  | 'i' :: 's' :: rest => String.ofList rest
  | _ => String.ofList kept

/-- The names that are those of a category and not of a property. -/
def categoryNames : List String := ["cf", "sc", "lc"]

/-- The class of a property, category or script. -/
def classByName? (name : String) : Option CharSet :=
  let property := if name ∈ categoryNames then none else Text.Unicode.property? name
  (property.map Text.Unicode.Property.chars).or <|
    (Text.Unicode.categoryByName? name).or <|
      (Text.Unicode.scriptByName? name).map CharSet.within

/-- The class of a name and a value. -/
def classByValue? (name value : String) : Option CharSet :=
  if name ∈ ["gc", "generalcategory"] then Text.Unicode.categoryByName? value
  else if name ∈ ["sc", "script", "scx", "scriptextensions"] then
    (Text.Unicode.scriptByName? value).map .within
  else none

/-- Splits characters where another list of them stands. -/
def splitAt? (separator : List Char) : List Char → Option (List Char × List Char)
  | [] => none
  | c :: rest =>
      if separator.isPrefixOf (c :: rest) then some ([], (c :: rest).drop separator.length)
      else (splitAt? separator rest).map fun (before, after) => (c :: before, after)

/-- The class that stands between braces, where a capital letter or `!=` means the
complement. -/
def namedClass? (negated : Bool) (text : List Char) : Option CharSet :=
  match splitAt? ['!', '='] text with
  | some (name, value) =>
      (classByValue? (looseName name) (looseName value)).map (.complementIf (!negated))
  | none =>
      match (splitAt? [':'] text).or (splitAt? ['='] text) with
      | some (name, value) =>
          (classByValue? (looseName name) (looseName value)).map (.complementIf negated)
      | none => (classByName? (looseName text)).map (.complementIf negated)

/-! ## Escapes -/

/-- What an escape means. -/
inductive Escape where
  | char (c : Char)
  /-- A byte that is written by number. -/
  | byte (n : Nat)
  | set (s : CharSet)
  | anchor (a : Anchor)

/-- The value of a hexadecimal digit. -/
def hexDigit? (c : Char) : Option Nat :=
  if c.isDigit then some (c.toNat - 48)
  else if 'a' ≤ c ∧ c ≤ 'f' then some (c.toNat - 87)
  else if 'A' ≤ c ∧ c ≤ 'F' then some (c.toNat - 55)
  else none

/-- The character of a number in hexadecimal digits. -/
def hexChar? (digits : List Char) : Option Char := do
  let values ← digits.mapM hexDigit?
  let n := values.foldl (fun n digit => min 0x110000 (16 * n + digit)) 0
  if n.isValidChar then return Char.ofNat n else none

/-- Reads a character by number, with so many digits or with any number of them
between braces. -/
def takeHex (flags : Flags) (width : Nat) (cs : List Char) : Option (Escape × List Char) :=
  match flags.skip cs with
  | '\x7b' :: rest => do
      let (digits, rest) ← splitAt? ['\x7d'] rest
      let digits := if flags.spaced then digits.filter (!isBlank ·) else digits
      if digits.isEmpty then none
      return (.char (← hexChar? digits), rest)
  | rest => do
      let digits := rest.take width
      if digits.length < width then none
      let c ← hexChar? digits
      let escape := if width = 2 ∧ 0x7F < c.toNat then Escape.byte c.toNat else .char c
      return (escape, rest.drop width)

/-- Reads the name of a class: one letter, or any text between braces. -/
def takeClassName (flags : Flags) (negated : Bool) (cs : List Char) :
    Option (Escape × List Char) := do
  if !flags.unicode then none
  match flags.skip cs with
  | '\x7b' :: rest =>
      let (name, rest) ← splitAt? ['\x7d'] rest
      return (.set (← namedClass? negated name), rest)
  | c :: rest =>
      if c = '\\' then none
      let s ← Text.Unicode.categoryByName? (looseName [c])
      return (.set (.complementIf negated s), rest)
  | [] => none

/-- The word boundaries that are written between braces. -/
def boundary? (word : CharSet) (name : List Char) : Option Anchor :=
  match String.ofList name with
  | "start" => some (.wordStart word)
  | "end" => some (.wordEnd word)
  | "start-half" => some (.wordStartHalf word)
  | "end-half" => some (.wordEndHalf word)
  | _ => none

/-- Whether a character may stand in the name of a word boundary. -/
def isBoundaryChar (c : Char) : Bool := c.isAlpha || c == '-'

/-- Reads a word boundary from behind its letter. Braces with something else than a
name in them are a repetition. -/
def takeBoundary (flags : Flags) (cs : List Char) : Option (Escape × List Char) :=
  let word := flags.wordChars
  match cs with
  | '\x7b' :: rest =>
      match flags.skip rest with
      | [] => none
      | c :: inner =>
          if isBoundaryChar c then
            let name := (c :: inner).takeWhile isBoundaryChar
            match flags.skip ((c :: inner).drop name.length) with
            | '\x7d' :: rest => (boundary? word name).map fun a => (.anchor a, rest)
            | _ => none
          else some (.anchor (.wordBoundary word), cs)
  | _ => some (.anchor (.wordBoundary word), cs)

/-- The character of a letter that is a control character when it is escaped. -/
def controlChar? (c : Char) : Option Char :=
  match c with
  | 'a' => some '\x07'
  | 'f' => some '\x0c'
  | 't' => some '\t'
  | 'n' => some '\n'
  | 'r' => some '\r'
  | 'v' => some '\x0b'
  | _ => none

/-- Whether a character means itself when it is escaped. -/
def isEscapable (c : Char) : Bool :=
  c.toNat < 0x80 && !c.isAlphanum && c != '<' && c != '>'

/-- Reads an escape from behind its backslash. -/
def takeEscape (flags : Flags) (cs : List Char) : Option (Escape × List Char) :=
  match cs with
  | [] => none
  | c :: rest =>
      if c.isDigit then none
      else if c = 'x' then takeHex flags 2 rest
      else if c = 'u' then takeHex flags 4 rest
      else if c = 'U' then takeHex flags 8 rest
      else if c = 'p' then takeClassName flags false rest
      else if c = 'P' then takeClassName flags true rest
      else if c ∈ ['d', 's', 'w', 'D', 'S', 'W'] then
        (flags.perlClass? c).map fun s => (.set s, rest)
      else if isEscapable c then some (.char c, rest)
      else if c = 'A' then some (.anchor .textStart, rest)
      else if c = 'z' then some (.anchor .textEnd, rest)
      else if c = 'b' then takeBoundary flags rest
      else if c = 'B' then some (.anchor (.noWordBoundary flags.wordChars), rest)
      else if c = '<' then some (.anchor (.wordStart flags.wordChars), rest)
      else if c = '>' then some (.anchor (.wordEnd flags.wordChars), rest)
      else (controlChar? c).map fun c => (.char c, rest)

/-! ## Classes between brackets -/

/-- A character that may begin or end a range, or a whole set. -/
inductive ClassItem where
  | char (c : Char)
  | set (s : CharSet)

/-- What an escape is within a class. Outside of Unicode a class holds ASCII alone. -/
def ClassItem.ofEscape? (flags : Flags) : Escape → Option ClassItem
  | .char c => if flags.unicode || c.toNat < 0x80 then some (.char c) else none
  | .byte n => if flags.unicode then some (.char (Char.ofNat n)) else none
  | .set s => some (.set s)
  | .anchor _ => none

/-- Reads one item of a class. -/
def takeItem (flags : Flags) : List Char → Option (ClassItem × List Char)
  | [] => none
  | '\\' :: rest => do
      let (escape, rest) ← takeEscape flags rest
      return (← ClassItem.ofEscape? flags escape, rest)
  | c :: rest =>
      if flags.unicode || c.toNat < 0x80 then some (.char c, rest) else none

/-- The set of an item. -/
def ClassItem.chars : ClassItem → CharSet
  | .char c => .only c
  | .set s => s

/-- Reads one item of a class or a range between two of them. -/
def takeRange (flags : Flags) (cs : List Char) : Option (CharSet × List Char) := do
  let (first, rest) ← takeItem flags cs
  match flags.skip rest with
  | [] => none
  | '-' :: after =>
      match flags.skip after with
      | [] => none
      | next :: _ =>
          if next = ']' ∨ next = '-' then return (first.chars, flags.skip rest)
          let (last, rest) ← takeItem flags (flags.skip after)
          match first, last with
          | .char a, .char b =>
              if a ≤ b then return (.within [(a.toNat, b.toNat)], rest) else none
          | _, _ => none
  | rest => return (first.chars, rest)

/-- Reads a class of ASCII between colons, if there is one. -/
def takeAsciiClass (flags : Flags) (cs : List Char) : Option (Option CharSet × List Char) :=
  match cs with
  | '[' :: ':' :: rest =>
      let (negated, rest) :=
        match rest with
        | '^' :: rest => (true, rest)
        | rest => (false, rest)
      let name := rest.takeWhile (· != ':')
      match rest.drop name.length with
      | ':' :: ']' :: rest =>
          (asciiClasses.lookup (String.ofList name)).map fun s =>
            if negated && !flags.unicode then (none, rest)
            else (some (.complementIf negated s), rest)
      | _ => none
  | _ => none

/-- An operation on two sets. -/
abbrev SetOperation := CharSet → CharSet → CharSet

/-- A class that is being read: the operation that waits for its second operand, and
the items since then. -/
structure OpenClass where
  waiting : Option (SetOperation × CharSet) := none
  items : CharSet := .none
  /-- Whether there was an item since the last operation. -/
  fresh : Bool := true

/-- Adds a set to the items. -/
def OpenClass.add (opened : OpenClass) (s : CharSet) : OpenClass :=
  { opened with items := if opened.fresh then s else .either opened.items s, fresh := false }

/-- A set closed under case, where case does not matter. -/
def Flags.closed (flags : Flags) (s : CharSet) : CharSet :=
  if flags.anyCase then .anyCase s else s

/-- The set of all that was read. -/
def OpenClass.result (flags : Flags) (opened : OpenClass) : CharSet :=
  match opened.waiting with
  | none => opened.items
  | some (operation, first) => operation (flags.closed first) (flags.closed opened.items)

/-- Goes on with an operation. -/
def OpenClass.operate (flags : Flags) (opened : OpenClass) (operation : SetOperation) :
    OpenClass where
  waiting := some (operation, opened.result flags)

/-- Reads the start of a class, from behind its bracket: whether it is a complement,
hyphens, and a closing bracket that means itself. -/
def takeOpening (flags : Flags) (cs : List Char) : Bool × OpenClass × List Char :=
  let (negated, rest) :=
    match flags.skip cs with
    | '^' :: rest => (true, flags.skip rest)
    | rest => (false, rest)
  let hyphens := rest.takeWhile (· == '-')
  let rest := flags.skip (rest.drop hyphens.length)
  let opened : OpenClass := if hyphens.isEmpty then {} else OpenClass.add {} (.only '-')
  match hyphens, rest with
  | [], ']' :: rest => (negated, OpenClass.add {} (.only ']'), rest)
  | _, rest => (negated, opened, rest)

/-- Reads a class from behind its opening bracket to its closing one. -/
def takeClass (flags : Flags) : Nat → Bool → OpenClass → List Char → Option (CharSet × List Char)
  | 0, _, _, _ => none
  | fuel + 1, negated, opened, cs =>
      match flags.skip cs with
      | [] => none
      | ']' :: rest =>
          if negated && !flags.unicode then none
          else some (.complementIf negated (flags.closed (opened.result flags)), rest)
      | '&' :: '&' :: rest => takeClass flags fuel negated (opened.operate flags .both) rest
      | '-' :: '-' :: rest => takeClass flags fuel negated (opened.operate flags .without) rest
      | '~' :: '~' :: rest => takeClass flags fuel negated (opened.operate flags .oneOf) rest
      | '[' :: rest =>
          match takeAsciiClass flags ('[' :: rest) with
          | some (some s, rest) => takeClass flags fuel negated (opened.add s) rest
          | some (none, _) => none
          | none => do
              let (innerNegated, inner, rest) := takeOpening flags rest
              let (s, rest) ← takeClass flags fuel innerNegated inner rest
              takeClass flags fuel negated (opened.add s) rest
      | rest => do
          let (s, rest) ← takeRange flags rest
          takeClass flags fuel negated (opened.add s) rest

/-! ## Groups and repetitions -/

/-- Reads a number with white space around it. -/
def takeCount (cs : List Char) : Option (Nat × List Char) := do
  let cs := cs.dropWhile isBlank
  let digits := cs.takeWhile Text.isDigit
  let n ← Text.digits? digits
  if n < UInt32.size then return (n, (cs.drop digits.length).dropWhile isBlank) else none

/-- Reads the bounds of a repetition, from behind the opening brace. -/
def takeBounds (flags : Flags) (cs : List Char) : Option (Nat × Option Nat × List Char) := do
  let (least, rest) ← takeCount (flags.skip cs)
  match rest with
  | '\x7d' :: rest => return (least, some least, rest)
  | ',' :: rest =>
      match flags.skip rest with
      | '\x7d' :: rest => return (least, none, rest)
      | rest =>
          let (most, rest) ← takeCount rest
          match rest with
          | '\x7d' :: rest => if least ≤ most then return (least, some most, rest) else none
          | _ => none
  | _ => none

/-- Drops the sign that makes a repetition match less. -/
def dropLazy (flags : Flags) (cs : List Char) : List Char :=
  match flags.skip cs with
  | '?' :: rest => rest
  | _ => cs

/-- Reads flags up to a colon or a closing bracket. -/
def takeFlags (given : Flags) : Nat → Option Bool → List Char → List Char →
    Option (Flags × Bool × List Char)
  | 0, _, _, _ => none
  | fuel + 1, off, seen, cs =>
      match cs with
      | [] => none
      | c :: rest =>
          if c = ':' ∨ c = ')' then
            if off = some true then none
            else if c = ')' ∧ seen.isEmpty then none
            else some (given, c == ':', rest)
          else if c = '-' then
            if off.isSome then none else takeFlags given fuel (some true) ('-' :: seen) rest
          else if c ∈ seen then none
          else do
            let flags ← given.set? c off.isNone
            takeFlags flags fuel (off.map fun _ => false) (c :: seen) rest

/-- Whether a character may stand in the name of a group. -/
def isNameChar (isFirst : Bool) (c : Char) : Bool :=
  c == '_' || Text.Unicode.alphabetic.contains c ||
    !isFirst && (c ∈ ['.', '[', ']'] ||
      ["nd", "nl", "no"].any fun name => Text.Unicode.contains (Text.Unicode.category name) c)

/-- Reads the name of a group up to its closing bracket. -/
def takeName (names : List String) (cs : List Char) : Option (String × List Char) :=
  let name := cs.takeWhile (· != '>')
  match name, cs.drop name.length with
  | first :: more, _ :: rest =>
      let text := String.ofList name
      if isNameChar true first && more.all (isNameChar false) && text ∉ names then some (text, rest)
      else none
  | _, _ => none

/-- How a group begins. -/
inductive Opening where
  /-- A group of its own, with the flags that hold in it. -/
  | group (flags : Flags)
  /-- Flags for the rest of the group around. -/
  | flags (flags : Flags)

/-- Reads the start of a group, from behind its bracket. -/
def takeGroup (flags : Flags) (names : List String) (cs : List Char) :
    Option (Opening × List String × List Char) :=
  match flags.skip cs with
  | '?' :: 'P' :: '<' :: rest =>
      (takeName names rest).map fun (name, rest) => (.group flags, name :: names, rest)
  | '?' :: '<' :: '=' :: _ => none
  | '?' :: '<' :: '!' :: _ => none
  | '?' :: '<' :: rest =>
      (takeName names rest).map fun (name, rest) => (.group flags, name :: names, rest)
  | '?' :: rest =>
      (takeFlags flags (rest.length + 1) none [] (flags.skip rest)).map
        fun (inner, isGroup, rest) =>
          (if isGroup then .group inner else .flags inner, names, rest)
  | rest => some (.group flags, names, rest)

/-! ## The whole pattern -/

/-- A part of a sequence; flags cannot be repeated. -/
inductive Part where
  | pattern (p : Pattern)
  | flags

/-- The pattern of parts, latest first. -/
def sequence (parts : List Part) : Pattern :=
  parts.foldl (fun rest part =>
    match part, rest with
    | .flags, rest => rest
    | .pattern p, .empty => p
    | .pattern p, rest => .seq p rest) .empty

/-- The pattern of one character. -/
def Flags.literal (flags : Flags) (c : Char) : Pattern :=
  .char (if flags.anyCase && (flags.unicode || c.toNat < 0x80) then .anyCase (.only c) else .only c)

/-- The pattern of an escape. -/
def Flags.escape? (flags : Flags) : Escape → Option Pattern
  | .char c => some (flags.literal c)
  | .byte n => if flags.unicode then some (flags.literal (Char.ofNat n)) else none
  | .set s => some (.char s)
  | .anchor a => some (.anchor a)

/-- The pattern of a dot, which needs all characters. -/
def Flags.dot? (flags : Flags) : Option Pattern :=
  if !flags.unicode then none
  else if flags.dotAll then some (.char .all)
  else if flags.crlf then some (.char (.complement (.within [(0x0A, 0x0A), (0x0D, 0x0D)])))
  else some (.char (.complement (.only '\n')))

/-- A sequence that is being read, with the alternatives before it. -/
structure Reading where
  flags : Flags
  names : List String
  /-- The alternatives so far. -/
  before : Option Pattern := none
  /-- The parts of the sequence so far, latest first. -/
  parts : List Part := []

/-- Adds a part. -/
def Reading.push (reading : Reading) (p : Pattern) : Reading :=
  { reading with parts := .pattern p :: reading.parts }

/-- The pattern of all alternatives. -/
def Reading.result (reading : Reading) : Pattern :=
  match reading.before with
  | some p => .alt p (sequence reading.parts)
  | none => sequence reading.parts

/-- Repeats the last part. -/
def Reading.repeated? (reading : Reading) (least : Nat) (most : Option Nat) : Option Reading :=
  match reading.parts with
  | .pattern p :: rest => some { reading with parts := .pattern (.repeated p least most) :: rest }
  | _ => none

/-- Reads alternatives up to a closing bracket or the end. -/
def takeAlternatives : Nat → Reading → List Char → Option (Pattern × List String × List Char)
  | 0, _, _ => none
  | fuel + 1, reading, cs =>
      let flags := reading.flags
      let again (least : Nat) (most : Option Nat) (rest : List Char) :=
        (reading.repeated? least most).bind fun reading =>
          takeAlternatives fuel reading (dropLazy flags rest)
      match flags.skip cs with
      | [] => some (reading.result, reading.names, [])
      | ')' :: rest => some (reading.result, reading.names, ')' :: rest)
      | '|' :: rest =>
          takeAlternatives fuel { reading with before := some reading.result, parts := [] } rest
      | '(' :: rest =>
          match takeGroup flags reading.names rest with
          | none => none
          | some (.flags inner, names, rest) =>
              takeAlternatives fuel
                { reading with flags := inner, names, parts := .flags :: reading.parts } rest
          | some (.group inner, names, rest) =>
              match takeAlternatives fuel { flags := inner, names } rest with
              | some (p, names, ')' :: rest) =>
                  takeAlternatives fuel { reading.push p with names } rest
              | _ => none
      | '[' :: rest =>
          let (negated, opened, rest) := takeOpening flags rest
          (takeClass flags rest.length negated opened rest).bind fun (s, rest) =>
            takeAlternatives fuel (reading.push (.char s)) rest
      | '*' :: rest => again 0 none rest
      | '+' :: rest => again 1 none rest
      | '?' :: rest => again 0 (some 1) rest
      | '\x7b' :: rest =>
          (takeBounds flags rest).bind fun (least, most, rest) => again least most rest
      | '\\' :: rest =>
          (takeEscape flags rest).bind fun (escape, rest) =>
            (flags.escape? escape).bind fun p => takeAlternatives fuel (reading.push p) rest
      | '.' :: rest => flags.dot?.bind fun p => takeAlternatives fuel (reading.push p) rest
      | '^' :: rest =>
          let a := if flags.multiLine then .lineStart flags.crlf else .textStart
          takeAlternatives fuel (reading.push (.anchor a)) rest
      | '$' :: rest =>
          let a := if flags.multiLine then .lineEnd flags.crlf else .textEnd
          takeAlternatives fuel (reading.push (.anchor a)) rest
      | c :: rest => takeAlternatives fuel (reading.push (flags.literal c)) rest

/-- The greatest weight that a pattern may have. -/
def maxWeight : Nat := 320000

/-- Reads a pattern. -/
def parse? (text : String) : Option Pattern :=
  let cs := text.toList
  match takeAlternatives (cs.length + 1) { flags := {}, names := [] } cs with
  | some (p, _, []) => if p.weight ≤ maxWeight then some p else none
  | _ => none

end TopicReplay.Pattern
