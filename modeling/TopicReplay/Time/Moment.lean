import TopicReplay.Text.Integer
import TopicReplay.Time.Instant

/-!
# Moments

A moment is a reading of a clock that is never set back. The clock counts seconds in
64 bits, so that not every span behind a moment ends at another one.
-/

namespace TopicReplay

/-- A reading of a clock: whole seconds and the nanoseconds of the next one. -/
structure Moment where
  seconds : Int
  nanos : Nat
  readable : (Text.minInt64 ≤ seconds ∧ seconds ≤ Text.maxInt64) ∧ nanos < nanosPerSecond := by
    decide
  deriving DecidableEq

namespace Moment

/-- The moment at which a clock begins that starts with the machine. -/
def start : Moment := ⟨0, 0, by decide⟩

/-- The moment with these parts, if there is one. -/
def ofParts? (seconds : Int) (nanos : Nat) : Option Moment :=
  if h : (Text.minInt64 ≤ seconds ∧ seconds ≤ Text.maxInt64) ∧ nanos < nanosPerSecond then
    some ⟨seconds, nanos, h⟩
  else none

/-- The moment some milliseconds later, if the clock can show it. -/
def later? (moment : Moment) (millis : Nat) : Option Moment :=
  let nanos := moment.nanos + millis % 1000 * 1000000
  ofParts? (moment.seconds + millis / 1000 + nanos / nanosPerSecond) (nanos % nanosPerSecond)

end Moment

end TopicReplay
