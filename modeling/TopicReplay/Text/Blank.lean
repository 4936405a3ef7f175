/-!
# Blank characters

The white space of a text is the Unicode `White_Space` property, and trimming
takes it away at the ends. White space of ASCII alone is a smaller set with
readers of its own.
-/

namespace TopicReplay.Text

/-- The code points with the Unicode property `White_Space`. -/
def blankRanges : List (Nat × Nat) :=
  [(0x09, 0x0D), (0x20, 0x20), (0x85, 0x85), (0xA0, 0xA0), (0x1680, 0x1680), (0x2000, 0x200A),
    (0x2028, 0x2029), (0x202F, 0x202F), (0x205F, 0x205F), (0x3000, 0x3000)]

/-- Whether a code point lies in one of the ranges, ends included. -/
def inRanges (ranges : List (Nat × Nat)) (code : Nat) : Bool :=
  ranges.any fun range => range.1 ≤ code && code ≤ range.2

/-- Whether a character is Unicode white space. -/
def isBlank (c : Char) : Bool := inRanges blankRanges c.toNat

/-- Whether a character is one of the five ASCII blanks: space, tab, line feed,
form feed and carriage return. -/
def isAsciiBlank (c : Char) : Bool :=
  c == ' ' || c == '\t' || c == '\n' || c == '\x0c' || c == '\r'

/-- Drops the white space at the front. -/
def trimLeft (cs : List Char) : List Char := cs.dropWhile isBlank

/-- Drops the white space at the end. -/
def trimRight (cs : List Char) : List Char := (cs.reverse.dropWhile isBlank).reverse

/-- Drops the white space at both ends. -/
def trim (cs : List Char) : List Char := trimRight (trimLeft cs)

/-- Drops the white space at both ends of a string. -/
def trimString (s : String) : String := String.ofList (trim s.toList)

@[simp]
theorem trim_nil : trim [] = [] := rfl

end TopicReplay.Text
