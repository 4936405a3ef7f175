import TopicReplay.Yaml.Place

/-!
# Scalars over several lines

A scalar may go on over several lines. In plain and in quoted scalars blanks at
line ends mean nothing, a single line end stands for a blank, and of more than one
all but the first are kept. In block scalars lines keep their ends, or are joined
in the same way where they are folded, and the lines are indented.
-/

namespace TopicReplay.Yaml

/-- The blanks and line ends since the last character of a scalar. -/
structure Pending where
  /-- Blanks on the same line, latest first. -/
  blanks : List Char := []
  breaks : Nat := 0
  /-- Whether a line end before them was taken away. -/
  joined : Bool := false

namespace Pending

/-- Whether a line has ended. -/
def isActive (pending : Pending) : Bool := 0 < pending.breaks || pending.joined

/-- Adds a blank, which counts only on the first line. -/
def addBlank (pending : Pending) (c : Char) : Pending :=
  if pending.isActive then pending else { pending with blanks := c :: pending.blanks }

/-- Adds a line end. -/
def addBreak (pending : Pending) : Pending :=
  { pending with blanks := [], breaks := pending.breaks + 1 }

/-- What blanks and line ends stand for, latest first. -/
def fold (pending : Pending) : List Char :=
  if pending.joined then List.replicate pending.breaks '\n'
  else
    match pending.breaks with
    | 0 => pending.blanks
    | 1 => [' ']
    | breaks + 1 => List.replicate breaks '\n'

end Pending

/-! ## Plain scalars -/

/-- The scalar that was read, latest character first, and the place behind it. -/
def Place.endPlain (place : Place) (text : List Char) (pending : Pending) (column : Nat)
    (rest : List Char) : Scalar × Place :=
  (⟨text.reverse, true⟩, { place with rest, column, fresh := pending.isActive })

/-- Whether a plain scalar ends before a character, for what stands behind it. -/
def endsPlain (flow : Bool) (c : Char) (rest : List Char) : Bool :=
  (c = ':' && endsWord rest) || (flow && isFlowSign c)

/-- Whether a plain scalar ends with a line, for what stands on the next one. -/
def endsPlainLine (flow : Bool) (indent column : Nat) (cs : List Char) : Bool :=
  (!flow && column < indent) || (column == 0 && beginsMark cs)

/-- Whether a colon stands before a sign that it may not stand before. -/
def isStrayColon (c : Char) (rest : List Char) : Bool :=
  c = ':' && rest.head?.any fun next => isFlowSign next || next == '?'

/-- Reads on in a plain scalar whose further lines stand at least at a column. -/
def Place.plainFrom (place : Place) (flow : Bool) (indent : Nat) :
    List Char → Pending → Nat → List Char → Option (Scalar × Place)
  | text, pending, column, [] => some (place.endPlain text pending column [])
  | text, pending, column, c :: rest =>
      if c = '\n' then place.plainFrom flow indent text pending.addBreak 0 rest
      else if isBlank c then
        if pending.isActive && column < indent && c = '\t' then none
        else place.plainFrom flow indent text (pending.addBlank c) (column + 1) rest
      else if pending.isActive && endsPlainLine flow indent column (c :: rest) then
        some (place.endPlain text pending column (c :: rest))
      else if c = '#' && (pending.isActive || !pending.blanks.isEmpty) then
        some (place.endPlain text pending column (c :: rest))
      else if flow && isStrayColon c rest then none
      else if endsPlain flow c rest then some (place.endPlain text pending column (c :: rest))
      else place.plainFrom flow indent (c :: (pending.fold ++ text)) {} (column + 1) rest

/-- Reads a plain scalar. -/
def Place.plain? (place : Place) (flow : Bool) (indent : Nat) : Option (Scalar × Place) :=
  if place.atPlain flow then place.plainFrom flow indent [] {} place.column place.rest else none

/-! ## Quoted scalars -/

/-- The character that an escape with one letter means. -/
def letterEscape? : Char → Option Char
  | '0' => some '\x00'
  | 'a' => some '\x07'
  | 'b' => some '\x08'
  | 't' | '\t' => some '\t'
  | 'n' => some '\n'
  | 'v' => some '\x0b'
  | 'f' => some '\x0c'
  | 'r' => some '\r'
  | 'e' => some '\x1b'
  | ' ' => some ' '
  | '"' => some '"'
  | '/' => some '/'
  | '\\' => some '\\'
  | 'N' => some '\u0085'
  | '_' => some '\u00a0'
  | 'L' => some '\u2028'
  | 'P' => some '\u2029'
  | _ => none

/-- How many hexadecimal digits follow the letter of an escape. -/
def hexEscape? : Char → Option Nat
  | 'x' => some 2
  | 'u' => some 4
  | 'U' => some 8
  | _ => none

/-- Reads an escape from behind its backslash: the character and how many were read. -/
def escape? : List Char → Option (Char × Nat)
  | [] => none
  | letter :: rest =>
      match hexEscape? letter with
      | some count => (Text.takeHexChar count rest).map fun (c, _) => (c, count + 1)
      | none => (letterEscape? letter).map (·, 1)

/-- Reads on in a quoted scalar, which has escapes if its quote is double. -/
def Place.quotedFrom (place : Place) (double : Bool) :
    Nat → List Char → Pending → Nat → List Char → Option (Scalar × Place)
  | 0, _, _, _, _ => none
  | _ + 1, _, _, _, [] => none
  | fuel + 1, text, pending, column, c :: rest =>
      let quote := if double then '"' else '\''
      let folded := pending.fold ++ text
      if c = '\n' then place.quotedFrom double fuel text pending.addBreak 0 rest
      else if isBlank c then
        place.quotedFrom double fuel text (pending.addBlank c) (column + 1) rest
      else if column == 0 && beginsMark (c :: rest) then none
      else if c = quote then
        if !double && rest.head? = some quote then
          place.quotedFrom double fuel (c :: folded) {} (column + 2) (rest.drop 1)
        else
          some (⟨folded.reverse, false⟩, { place with rest, column := column + 1, fresh := false })
      else if double && c = '\\' then
        if rest.head? = some '\n' then
          place.quotedFrom double fuel folded { joined := true } 0 (rest.drop 1)
        else
          match escape? rest with
          | some (meant, count) =>
              place.quotedFrom double fuel (meant :: folded) {} (column + count + 1)
                (rest.drop count)
          | none => none
      else place.quotedFrom double fuel (c :: folded) {} (column + 1) rest

/-- Reads a quoted scalar. -/
def Place.quoted? (place : Place) : Option (Scalar × Place) :=
  match place.rest with
  | '"' :: rest => place.quotedFrom true (rest.length + 1) [] {} (place.column + 1) rest
  | '\'' :: rest => place.quotedFrom false (rest.length + 1) [] {} (place.column + 1) rest
  | _ => none

/-! ## Block scalars -/

/-- What becomes of the line ends behind a block scalar. -/
inductive Chomping where
  /-- They are dropped. -/
  | strip
  /-- The first one is kept. -/
  | clip
  | keep
  deriving DecidableEq, Repr

/-- What the header of a block scalar says. -/
structure BlockHeader where
  chomping : Chomping := .clip
  /-- By how many columns the lines are indented, if it is said. -/
  indent : Option Nat := none

/-- The chomping that a sign stands for. -/
def chomping? : Char → Option Chomping
  | '-' => some .strip
  | '+' => some .keep
  | _ => none

/-- The indentation that a digit stands for. -/
def indentation? (c : Char) : Option Nat :=
  (Text.digitValue? c).filter (0 < ·)

/-- Reads the signs of a header, in any order. -/
def blockHeader (cs : List Char) : BlockHeader × List Char :=
  match cs with
  | [] => ({}, [])
  | c :: rest =>
      match chomping? c, indentation? c with
      | some chomping, _ =>
          match rest with
          | d :: more =>
              match indentation? d with
              | some indent => (⟨chomping, some indent⟩, more)
              | none => (⟨chomping, none⟩, rest)
          | [] => (⟨chomping, none⟩, [])
      | none, some indent =>
          match rest with
          | d :: more =>
              match chomping? d with
              | some chomping => (⟨chomping, some indent⟩, more)
              | none => (⟨.clip, some indent⟩, rest)
          | [] => (⟨.clip, some indent⟩, [])
      | none, none => ({}, cs)

/-- The lines below a header, behind which there may be a comment. -/
def belowHeader? (cs : List Char) : Option (List Char) :=
  match cs.dropWhile isBlank with
  | [] => some []
  | '\n' :: rest => some rest
  | '#' :: rest => some ((rest.dropWhile (· != '\n')).drop 1)
  | _ => none

/-- Empty lines and the indentation before a line that is not empty. -/
structure Margin where
  breaks : Nat
  /-- The greatest column that was reached. -/
  reach : Nat
  column : Nat
  rest : List Char

/-- Passes over empty lines and the indentation, which ends at a column if that is known. -/
def marginFrom (indent : Option Nat) : Nat → Nat → Nat → List Char → Option Margin
  | breaks, reach, column, [] => some ⟨breaks, max reach column, column, []⟩
  | breaks, reach, column, c :: rest =>
      let within := indent.all fun indent => column < indent
      if c = ' ' && within then marginFrom indent breaks reach (column + 1) rest
      else if c = '\t' && within then none
      else if c = '\n' then marginFrom indent (breaks + 1) (max reach column) 0 rest
      else some ⟨breaks, max reach column, column, c :: rest⟩

/-- What was read of a block scalar. -/
structure BlockText where
  /-- The characters, latest first. -/
  text : List Char := []
  /-- Whether the last line has an end that is not yet taken up. -/
  ended : Bool := false
  /-- Whether the last line begins with a blank. -/
  blank : Bool := false

/-- Reads the lines of a block scalar that stand at a column. -/
def blockLines (folds : Bool) (indent : Nat) :
    Nat → BlockText → Margin → Option (BlockText × Margin)
  | 0, block, margin => some (block, margin)
  | fuel + 1, block, margin =>
      match margin.rest with
      | [] => some (block, margin)
      | c :: _ =>
          if margin.column ≠ indent then some (block, margin)
          else
            let blank := isBlank c
            let joint :=
              if !block.ended then []
              else if folds && !block.blank && !blank then
                if margin.breaks = 0 then [' '] else []
              else ['\n']
            let (line, rest) := margin.rest.span (· != '\n')
            let text :=
              line.reverse ++ List.replicate margin.breaks '\n' ++ joint ++ block.text
            match marginFrom (some indent) 0 0 0 (rest.drop 1) with
            | some margin => blockLines folds indent fuel ⟨text, !rest.isEmpty, blank⟩ margin
            | none => none

/-- The text of a block scalar with the line ends behind it. -/
def chomp (chomping : Chomping) (block : BlockText) (breaks : Nat) : List Char :=
  let last := if block.ended then ['\n'] else []
  match chomping with
  | .strip => block.text.reverse
  | .clip => block.text.reverse ++ last
  | .keep => block.text.reverse ++ last ++ List.replicate breaks '\n'

/-- Reads a block scalar from behind its sign, within a collection at column `outer`. -/
def Place.block? (place : Place) (folds : Bool) (outer : Int) : Option (Scalar × Place) := do
  let (header, rest) := blockHeader (place.rest.drop 1)
  let rest ← belowHeader? rest
  let base := outer.toNat
  let margin ← marginFrom (header.indent.map (base + ·)) 0 0 0 rest
  let indent :=
    match header.indent with
    | some indent => base + indent
    | none => max (max margin.reach (outer + 1).toNat) 1
  let (block, margin) ← blockLines folds indent rest.length {} margin
  return (⟨chomp header.chomping block margin.breaks, false⟩,
    { place with rest := margin.rest, column := margin.column, fresh := true })

end TopicReplay.Yaml
