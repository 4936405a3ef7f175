import TopicReplay.Time.Calendar

/-!
# Instants

An instant is a count of seconds since 1970-01-01T00:00:00Z and a count of
nanoseconds within the second. A leap second has no count of its own: it is the
last second of its minute with a thousand million nanoseconds more. The years
-262143 to 262142 are representable.
-/

namespace TopicReplay

/-- The nanoseconds of one second. -/
def nanosPerSecond : Nat := 1000000000

namespace Time

/-- The first second of the year -262143. -/
def minSeconds : Int := -8334601228800

/-- The last second of the year 262142. -/
def maxSeconds : Int := 8210266876799

/-- The first year that is representable. -/
def minYear : Int := -262143

/-- The last year that is representable. -/
def maxYear : Int := 262142

/-- Whether the parts form an instant. -/
def Representable (seconds : Int) (nanos : Nat) : Prop :=
  minSeconds ≤ seconds ∧ seconds ≤ maxSeconds ∧
    (nanos < nanosPerSecond ∨ seconds % 60 = 59 ∧ nanos < 2 * nanosPerSecond)

instance (seconds : Int) (nanos : Nat) : Decidable (Representable seconds nanos) :=
  inferInstanceAs (Decidable (_ ∧ _ ∧ _))

end Time

/-- A point in time, to the nanosecond, leap seconds included. -/
structure Instant where
  seconds : Int
  nanos : Nat
  representable : Time.Representable seconds nanos := by decide
  deriving DecidableEq

namespace Instant

open Time

instance : Repr Instant := ⟨fun t n => reprPrec (t.seconds, t.nanos) n⟩

/-- The first instant of 1970. -/
def epoch : Instant := ⟨0, 0, by decide⟩

instance : Inhabited Instant := ⟨epoch⟩

/-- The instant with these parts, if there is one. -/
def ofParts? (seconds : Int) (nanos : Nat) : Option Instant :=
  if h : Representable seconds nanos then some ⟨seconds, nanos, h⟩ else none

/-- The instant a number of milliseconds after the epoch. -/
def ofMillis? (millis : Int) : Option Instant :=
  ofParts? (millis / 1000) ((millis % 1000).toNat * 1000000)

/-- The seconds and nanoseconds of an instant that is left by so many whole seconds.
Going on from a leap second starts within the second before it, and going back from
one starts behind it. -/
def leave (t : Instant) (seconds : Int) : Int × Int :=
  if t.nanos < nanosPerSecond then (t.seconds, t.nanos)
  else if seconds < 0 then (t.seconds + 1, t.nanos - nanosPerSecond)
  else (t.seconds, t.nanos - nanosPerSecond)

/-- The instant a number of milliseconds later, if there is one. -/
def addMillis? (t : Instant) (millis : Int) : Option Instant :=
  let seconds := millis.tdiv 1000
  let nanos := millis.tmod 1000 * 1000000
  if nanosPerSecond ≤ t.nanos ∧ seconds = 0 ∧ t.nanos + nanos < 2 * nanosPerSecond then
    ofParts? t.seconds (t.nanos + nanos).toNat
  else
    let (start, part) := t.leave seconds
    let total := part + nanos
    ofParts? (start + seconds + total / nanosPerSecond) (total % nanosPerSecond).toNat

/-- Instants are ordered by their seconds and then by their nanoseconds. -/
instance : Ord Instant where
  compare := compareLex (compareOn (·.seconds)) (compareOn (·.nanos))

instance : Std.TransOrd Instant :=
  inferInstanceAs (Std.TransCmp (compareLex (compareOn Instant.seconds) (compareOn Instant.nanos)))

/-- Whether an instant is at or after another. -/
def atOrAfter (a b : Instant) : Bool := compare a b != .lt

/-- Whether an instant is after another. -/
def after (a b : Instant) : Bool := compare a b == .gt

@[simp]
theorem ofParts?_parts (t : Instant) : ofParts? t.seconds t.nanos = some t := by
  rw [ofParts?, dif_pos t.representable]

end Instant

namespace Time

/-- A date with a time of day. The second 60 is a leap second. -/
structure Civil where
  date : Date
  hour : Nat
  minute : Nat
  second : Nat
  nanos : Nat
  deriving DecidableEq, Repr

/-- The seconds of a day. -/
def secondsPerDay : Int := 86400

/-- Whether the calendar and the clock have this date and time. -/
def Civil.isValid (civil : Civil) : Bool :=
  civil.date.isValid && minYear ≤ civil.date.year && civil.date.year ≤ maxYear &&
    civil.hour < 24 && civil.minute < 60 && civil.second ≤ 60 && civil.nanos < nanosPerSecond

/-- The instant that clocks `offset` seconds ahead of UTC show as this date and time. -/
def Civil.toInstant? (civil : Civil) (offset : Int) : Option Instant :=
  if civil.isValid then
    let second := if civil.second = 60 then 59 else civil.second
    let leap := if civil.second = 60 then nanosPerSecond else 0
    Instant.ofParts?
      (civil.date.toDays * secondsPerDay + civil.hour * 3600 + civil.minute * 60 + second - offset)
      (civil.nanos + leap)
  else none

end Time

/-- The date and time of an instant in UTC. -/
def Instant.toCivil (t : Instant) : Time.Civil :=
  let inDay := (t.seconds % Time.secondsPerDay).toNat
  { date := Time.Date.ofDays (t.seconds / Time.secondsPerDay)
    hour := inDay / 3600
    minute := inDay / 60 % 60
    second := inDay % 60 + t.nanos / nanosPerSecond
    nanos := t.nanos % nanosPerSecond }

end TopicReplay
