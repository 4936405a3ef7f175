import TopicReplay.Checkpoint.Span

/-!
# Selections

A selection says which partitions of a topic are read and over which spans. It is
made of expressions for start and stop. An expression with a number and a `#` in
front speaks of one partition, any other of all of them; a later expression
replaces an earlier one of the same scope. Partitions with a span of their own
inherit what no expression of theirs says.
-/

namespace TopicReplay

/-- What becomes of one partition. -/
inductive Choice where
  /-- It has a span of its own. -/
  | own (span : Span)
  /-- It follows the span of all partitions. -/
  | common (span : Span)
  /-- It is not read. -/
  | excluded
  deriving DecidableEq, Repr

/-- The span to read, unless the partition is excluded. -/
def Choice.span? : Choice → Option Span
  | .own span | .common span => some span
  | .excluded => none

/-- Which partitions of a topic are read, and over which spans. -/
structure Selection where
  common : Span := {}
  own : OrderedMap Int Span := .empty
  /-- Whether partitions without a span of their own are left out. -/
  exclusive : Bool := false
  deriving DecidableEq, Repr

/-- Spans gathered from expressions, before they are checked. -/
structure Gathered where
  common : Span := {}
  own : OrderedMap Int Span := .empty
  /-- The partitions with a stop expression of their own, latest first. -/
  stopped : List Int := []

namespace Selection

open Checkpoint (Error)

/-- Splits characters at the first `#`. -/
def splitScope : List Char → Option (List Char × List Char)
  | [] => none
  | c :: rest =>
      if c = '#' then some ([], rest)
      else (splitScope rest).map fun (before, after) => (c :: before, after)

/-- The number of a partition, which is not negative. -/
def partitionNumber? (cs : List Char) : Option Int :=
  (Text.int32? (Text.trim cs)).filter fun n => 0 ≤ n

/-- Reads an expression with its scope. -/
def parseToken (raw : String) (isStop : Bool) : Except Error (PartitionScope × Checkpoint) :=
  let token := Text.trim raw.toList
  match splitScope token with
  | none => (Checkpoint.parse (String.ofList token) isStop).map fun checkpoint => (.all, checkpoint)
  | some (before, after) =>
      match partitionNumber? before with
      | none => .error (.badPartition (String.ofList before))
      | some number =>
          (Checkpoint.parse (String.ofList after) isStop).map fun checkpoint =>
            (.partition number, checkpoint)

/-- Adds a start expression. -/
def addStart (gathered : Gathered) : PartitionScope × Checkpoint → Gathered
  | (.all, checkpoint) =>
      { gathered with common := { gathered.common with start := checkpoint } }
  | (.partition number, checkpoint) =>
      { gathered with
        own := gathered.own.update number fun span =>
          { span.getD { stop := gathered.common.stop } with start := checkpoint } }

/-- Adds a stop expression. One for all partitions also holds for those with a
span of their own, except where one of theirs came before. -/
def addStop (gathered : Gathered) : PartitionScope × Checkpoint → Gathered
  | (.all, checkpoint) =>
      { gathered with
        common := { gathered.common with stop := some checkpoint }
        own := gathered.own.mapValues fun number span =>
          if number ∈ gathered.stopped then span else { span with stop := some checkpoint } }
  | (.partition number, checkpoint) =>
      { gathered with
        own := gathered.own.update number fun span =>
          { span.getD { start := gathered.common.start } with stop := some checkpoint }
        stopped := number :: gathered.stopped }

/-- Checks the span of all partitions and then those of single ones. -/
def checkSpans (gathered : Gathered) : Except Error Unit := do
  gathered.common.check PartitionScope.all.display
  gathered.own.toList.forM fun (number, span) =>
    span.check (PartitionScope.partition number).display

/-- Reads expressions one after the other and adds each to what was gathered. -/
def gather (isStop : Bool) (add : Gathered → PartitionScope × Checkpoint → Gathered) :
    List String → Gathered → Except Error Gathered
  | [], gathered => .ok gathered
  | raw :: rest, gathered =>
      match parseToken raw isStop with
      | .error e => .error e
      | .ok token => gather isStop add rest (add gathered token)

/-- The selection that start and stop expressions describe. Leaving out the other
partitions needs a partition with a span of its own. -/
def build (starts stops : List String) (exclusive : Bool) : Except Error Selection := do
  let gathered ← gather false addStart starts {}
  let gathered ← gather true addStop stops gathered
  checkSpans gathered
  return {
    common := gathered.common
    own := gathered.own
    exclusive := exclusive && !gathered.own.isEmpty }

/-- What becomes of a partition. -/
def choose (selection : Selection) (partition : Int) : Choice :=
  match selection.own.get? partition with
  | some span => .own span
  | none => if selection.exclusive then .excluded else .common selection.common

/-- Whether some span starts from the offset store. -/
def usesStored (selection : Selection) : Bool :=
  selection.common.start == .stored || selection.own.values.any fun span => span.start == .stored

end Selection

end TopicReplay
