import TopicReplay.Yaml.Scalar

/-!
# Places in a YAML text

What may stand at a place depends on its column and on what stands before it on
its line: a collection in block style begins only where `fresh` says so. Lines end
with a line feed here, as all other line ends were replaced by it.
-/

namespace TopicReplay.Yaml

/-- A place in a text. -/
structure Place where
  rest : List Char
  column : Nat := 0
  /-- Whether a collection in block style may begin. -/
  fresh : Bool := true
  /-- The values with an anchor, latest first. -/
  anchors : List (String × Json) := []

/-- Whether a character is a blank within a line. -/
def isBlank (c : Char) : Bool := c == ' ' || c == '\t'

/-- Whether a text begins with a blank or a line end, or is at its end. -/
def endsWord : List Char → Bool
  | [] => true
  | c :: _ => isBlank c || c == '\n'

/-- Whether a text begins with the sign of a document's start or end. -/
def beginsMark (cs : List Char) : Bool :=
  (cs.take 3 == ['-', '-', '-'] || cs.take 3 == ['.', '.', '.']) && endsWord (cs.drop 3)

/-- Whether a character separates the parts of a collection in flow style. -/
def isFlowSign (c : Char) : Bool :=
  c == ',' || c == '[' || c == ']' || c == '\x7b' || c == '\x7d'

namespace Place

/-- The place so many characters further on the same line. -/
def advance (place : Place) (count : Nat) : Place :=
  { place with rest := place.rest.drop count, column := place.column + count }

/-- Whether a document starts or ends here. -/
def atMark (place : Place) : Bool := place.column == 0 && beginsMark place.rest

/-- Whether the document has nothing more. -/
def atEnd (place : Place) : Bool := place.rest.isEmpty || place.atMark

/-- Whether an item of a sequence begins here. -/
def atDash (place : Place) : Bool :=
  match place.rest with
  | '-' :: rest => endsWord rest
  | _ => false

/-- The place behind blanks, comments and line ends. A tab is a blank only where no
collection in block style may begin. -/
def gapFrom (flow : Bool) (anchors : List (String × Json)) :
    Bool → Bool → Nat → List Char → Place
  | _, fresh, column, [] => ⟨[], column, fresh, anchors⟩
  | comment, fresh, column, c :: rest =>
      if c = '\n' then gapFrom flow anchors false true 0 rest
      else if comment then gapFrom flow anchors true fresh (column + 1) rest
      else if c = ' ' || (c = '\t' && (flow || !fresh)) then
        gapFrom flow anchors false fresh (column + 1) rest
      else if c = '#' then gapFrom flow anchors true fresh (column + 1) rest
      else ⟨c :: rest, column, fresh, anchors⟩

/-- The place of what comes next. -/
def gap (place : Place) (flow : Bool) : Place :=
  gapFrom flow place.anchors false place.fresh place.column place.rest

/-- The place behind the blanks of a line. -/
def skipBlanks (place : Place) : Place :=
  place.advance (place.rest.takeWhile isBlank).length

/-- Whether another place is on the same line. -/
def sameLine (place later : Place) : Bool :=
  !(place.rest.take (place.rest.length - later.rest.length)).contains '\n'

/-- Whether a plain scalar may begin here. -/
def atPlain (place : Place) (flow : Bool) : Bool :=
  match place.rest with
  | [] => false
  | '-' :: rest => !endsWord rest
  | c :: rest =>
      if c = '?' || c = ':' then !flow && !endsWord rest
      else !(endsWord (c :: rest) || isFlowSign c || c ∈ "#&*!|>'\"%@\x60".toList)

end Place

end TopicReplay.Yaml
