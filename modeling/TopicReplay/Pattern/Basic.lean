import TopicReplay.Text.Unicode.Property

/-!
# Patterns

A pattern is a regular expression without captures. It matches a text when some
part of the text belongs to it. Matching goes through the text with the set of all
places that have been reached, so it never backtracks.
-/

namespace TopicReplay

open Text (CharSet)

/-- A condition on a place between two characters. -/
inductive Anchor where
  | textStart
  | textEnd
  /-- At the start of a line, where lines may also end in a carriage return. -/
  | lineStart (crlf : Bool)
  | lineEnd (crlf : Bool)
  | wordBoundary (word : CharSet)
  | noWordBoundary (word : CharSet)
  | wordStart (word : CharSet)
  | wordEnd (word : CharSet)
  /-- With no character of a word in front. -/
  | wordStartHalf (word : CharSet)
  /-- With no character of a word behind. -/
  | wordEndHalf (word : CharSet)
  deriving Inhabited

/-- A regular expression. -/
inductive Pattern where
  /-- The empty text. -/
  | empty
  /-- One character of a set. -/
  | char (s : CharSet)
  | anchor (a : Anchor)
  | seq (first second : Pattern)
  | alt (first second : Pattern)
  /-- At least so many times, and at most so many if there is a limit. -/
  | repeated (p : Pattern) (least : Nat) (most : Option Nat)
  deriving Inhabited

namespace Pattern

/-- A place in a text. -/
structure Place where
  /-- The character in front of the place. -/
  before : Option Char
  /-- The characters behind the place. -/
  rest : List Char

/-- Whether a place lies at a character of a set: in front of it and behind it. -/
def Place.sides (place : Place) (s : CharSet) : Bool × Bool :=
  (place.before.any s.contains, place.rest.head?.any s.contains)

/-- Whether a place meets a condition. -/
def Place.meets (place : Place) : Anchor → Bool
  | .textStart => place.before.isNone
  | .textEnd => place.rest.isEmpty
  | .lineStart crlf =>
      match place.before with
      | none => true
      | some c => c == '\n' || crlf && c == '\r' && place.rest.head? != some '\n'
  | .lineEnd crlf =>
      match place.rest with
      | [] => true
      | c :: _ =>
          if crlf then c == '\r' || c == '\n' && place.before != some '\r' else c == '\n'
  | .wordBoundary word => (place.sides word).1 != (place.sides word).2
  | .noWordBoundary word => (place.sides word).1 == (place.sides word).2
  | .wordStart word => !(place.sides word).1 && (place.sides word).2
  | .wordEnd word => (place.sides word).1 && !(place.sides word).2
  | .wordStartHalf word => !(place.sides word).1
  | .wordEndHalf word => !(place.sides word).2

/-- The place behind the next character, if it is in a set. -/
def Place.step? (place : Place) (s : CharSet) : Option Place :=
  match place.rest with
  | [] => none
  | c :: rest => if s.contains c then some ⟨some c, rest⟩ else none

/-- The places of a text. -/
def Place.allFrom (before : Option Char) : List Char → List Place
  | [] => [⟨before, []⟩]
  | c :: rest => ⟨before, c :: rest⟩ :: allFrom (some c) rest

/-- Adds the places that are not there yet. Places of one text are told apart by
what is behind them. -/
def addNew (places : List Place) (more : List Place) : List Place :=
  more.foldl (fun places place =>
    if places.any fun other => other.rest.length == place.rest.length then places
    else place :: places) places

/-- The places that are reached by any number of steps, at most `rounds` of them. -/
def closure (step : List Place → List Place) : Nat → List Place → List Place
  | 0, places => places
  | rounds + 1, places =>
      let more := addNew places (step places)
      if more.length = places.length then places else closure step rounds more

/-- The places that are reached by so many steps. -/
def iterate (step : List Place → List Place) : Nat → List Place → List Place
  | 0, places => places
  | times + 1, places => if places.isEmpty then [] else iterate step times (step places)

/-- The places that can be reached from places by matching a pattern, in a text of
so many characters. -/
def advance (length : Nat) : Pattern → List Place → List Place
  | .empty, places => places
  | .char s, places => places.filterMap fun place => place.step? s
  | .anchor a, places => places.filter fun place => place.meets a
  | .seq first second, places => advance length second (advance length first places)
  | .alt first second, places =>
      addNew (advance length first places) (advance length second places)
  | .repeated p least most, places =>
      let reached := iterate (advance length p) least places
      let rounds := (most.map (· - least)).getD (length + 1)
      closure (advance length p) (min rounds (length + 1)) reached

/-- Whether some part of a text belongs to a pattern. -/
def isMatch (p : Pattern) (text : String) : Bool :=
  let cs := text.toList
  !(advance cs.length p (Place.allFrom none cs)).isEmpty

/-- A measure of how large a pattern is when its repetitions are written out. -/
def weight : Pattern → Nat
  | .empty | .anchor _ => 1
  | .char s => s.rangeCount
  | .seq first second => first.weight + second.weight
  | .alt first second => first.weight + second.weight + 1
  | .repeated p least most => p.weight * max 1 (most.getD (least + 1)) + 1

end Pattern

end TopicReplay
