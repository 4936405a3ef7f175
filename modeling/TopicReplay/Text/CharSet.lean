import TopicReplay.Text.Unicode.Fold
import TopicReplay.Text.Unicode.Ranges

/-!
# Sets of characters

A set of characters is described by ranges of code points and by the operations on
sets. Closing a set under case adds the letters that differ from a member in case
alone.
-/

namespace TopicReplay.Text

open Unicode (Ranges)

/-- A set of characters. -/
inductive CharSet where
  | within (ranges : Ranges)
  | complement (s : CharSet)
  | either (s t : CharSet)
  | both (s t : CharSet)
  | without (s t : CharSet)
  /-- The characters of exactly one of two sets. -/
  | oneOf (s t : CharSet)
  /-- The characters that differ from a member in case alone. -/
  | anyCase (s : CharSet)
  deriving Repr, Inhabited

namespace CharSet

/-- Whether a code point is in a set. -/
def has : CharSet → Nat → Bool
  | .within ranges, code => ranges.any fun range => range.1 ≤ code && code ≤ range.2
  | .complement s, code => !s.has code
  | .either s t, code => s.has code || t.has code
  | .both s t, code => s.has code && t.has code
  | .without s t, code => s.has code && !t.has code
  | .oneOf s t, code => s.has code != t.has code
  | .anyCase s, code => (Unicode.caseVariants code).any s.has

/-- Whether a character is in a set. -/
def contains (s : CharSet) (c : Char) : Bool := s.has c.toNat

/-- The empty set. -/
def none : CharSet := .within []

/-- The set of all characters. -/
def all : CharSet := .complement none

/-- The set of one character. -/
def only (c : Char) : CharSet := .within [(c.toNat, c.toNat)]

/-- The complement of a set, where that is wanted. -/
def complementIf (wanted : Bool) (s : CharSet) : CharSet := if wanted then .complement s else s

/-- How much it takes to describe a set: its ranges, and some more for a complement. -/
def rangeCount : CharSet → Nat
  | .within ranges => ranges.length
  | .complement s => s.rangeCount + 10
  | .either s t | .both s t | .without s t | .oneOf s t => s.rangeCount + t.rangeCount
  | .anyCase s => 2 * s.rangeCount

end CharSet

end TopicReplay.Text
