import TopicReplay.Text.Integer

/-!
# Ranges of code points

Tables of code points are written as ranges in hexadecimal, `first-last`, or as
single code points, with blanks between them.
-/

namespace TopicReplay.Text.Unicode

/-- Ranges of code points, ends included. -/
abbrev Ranges := List (Nat × Nat)

/-- The value of a hexadecimal digit in upper case. -/
def hexValue (c : Char) : Nat := if isDigit c then c.toNat - 48 else c.toNat - 55

/-- The number that hexadecimal digits stand for. -/
def hexNumber (digits : List Char) : Nat := digits.foldl (fun n c => 16 * n + hexValue c) 0

/-- The range that a word stands for. -/
def readRange (word : String) : Nat × Nat :=
  match (word.splitOn "-").map fun part => hexNumber part.toList with
  | [first, last] => (first, last)
  | numbers => (numbers.headD 0, numbers.headD 0)

/-- The ranges on the lines of a table. -/
def readRanges (lines : List String) : Ranges :=
  lines.flatMap fun line => (line.splitOn " ").map readRange

/-- Whether a character lies in one of the ranges. -/
def contains (ranges : Ranges) (c : Char) : Bool :=
  ranges.any fun range => range.1 ≤ c.toNat && c.toNat ≤ range.2

end TopicReplay.Text.Unicode
