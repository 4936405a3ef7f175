import TopicReplay.Checkpoint.Basic

/-!
# Spans

A span is where reading a partition starts and, perhaps, where it stops. A span is
valid when its second checkpoint can stop a reader and when two offsets, or two
instants, stand in order. Checkpoints of different kinds are not compared, since
their order depends on the partition.
-/

namespace TopicReplay

/-- Where to start reading and, perhaps, where to stop. -/
structure Span where
  start : Checkpoint := .newest
  stop : Option Checkpoint := none
  deriving DecidableEq, Repr

namespace Span

open Checkpoint (SpanFault)

/-- What is wrong with a span, if anything. -/
def fault? (span : Span) : Option SpanFault :=
  match span.stop with
  | none => none
  | some stop =>
      if stop.canStop then
        match span.start, stop with
        | .offset first, .offset last =>
            if last < first then some (.offsetsReversed first last) else none
        | .time first, .time last =>
            if first.after last then some (.timesReversed first last) else none
        | _, _ => none
      else some (.noStop stop.display)

/-- Accepts a valid span; `scope` names what it was given for. -/
def check (scope : String) (span : Span) : Except Checkpoint.Error Unit :=
  match span.fault? with
  | some fault => .error (.badSpan scope fault)
  | none => .ok ()

/-- The valid span between two checkpoints. -/
def ofCheckpoints (start : Checkpoint) (stop : Option Checkpoint) : Except Checkpoint.Error Span :=
  (check "checkpoint pair" ⟨start, stop⟩).map fun _ => ⟨start, stop⟩

/-- The text of a span. -/
def display (span : Span) : String :=
  span.start.display ++ " -> " ++
    match span.stop with
    | some stop => stop.display
    | none => "(unbounded)"

end Span

end TopicReplay
