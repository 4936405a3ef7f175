import TopicReplay.Time.Layout

/-!
# Instants as text

Instants are written as RFC 3339 writes them, in UTC. A year outside of 0 to 9999
has a sign and at least four digits, and a leap second is the second 60.
-/

namespace TopicReplay.Time

open TopicReplay.Text

/-- How many digits a written fraction of a second has. -/
inductive Precision where
  /-- None when the fraction is zero, else the fewest of three, six and nine that hold it. -/
  | shortest
  /-- Three, the rest being cut. -/
  | millis
  /-- None, the fraction being cut. -/
  | seconds
  deriving DecidableEq, Repr

/-- How UTC is written. -/
inductive ZoneStyle where
  | offset
  | letter
  deriving DecidableEq, Repr

/-- The text of a year. -/
def yearText (year : Int) : List Char :=
  if 0 ≤ year ∧ year ≤ 9999 then padded 4 year.toNat
  else (if year < 0 then '-' else '+') :: padded 4 year.natAbs

/-- The text of a fraction, with its point. -/
def fractionText (precision : Precision) (nanos : Nat) : List Char :=
  match precision with
  | .shortest =>
      if nanos = 0 then []
      else if nanos % 1000000 = 0 then '.' :: padded 3 (nanos / 1000000)
      else if nanos % 1000 = 0 then '.' :: padded 6 (nanos / 1000)
      else '.' :: padded 9 nanos
  | .millis => '.' :: padded 3 (nanos / 1000000)
  | .seconds => []

/-- The text of UTC as a zone. -/
def ZoneStyle.text : ZoneStyle → List Char
  | .offset => "+00:00".toList
  | .letter => ['Z']

/-- The text of a date and time, without a zone. -/
def Civil.text (precision : Precision) (civil : Civil) : List Char :=
  yearText civil.date.year ++ '-' :: padded 2 civil.date.month ++ '-' :: padded 2 civil.date.day ++
    'T' :: padded 2 civil.hour ++ ':' :: padded 2 civil.minute ++ ':' :: padded 2 civil.second ++
    fractionText precision civil.nanos

end TopicReplay.Time

namespace TopicReplay.Instant

open TopicReplay.Time

/-- The text of an instant. -/
def text (precision : Precision) (zone : ZoneStyle) (t : Instant) : List Char :=
  t.toCivil.text precision ++ zone.text

/-- The text of an instant with an offset of zero and as many digits as it needs. -/
def display (t : Instant) : String := String.ofList (t.text .shortest .offset)

/-- The text of an instant with the letter of UTC and as many digits as it needs. -/
def canonical (t : Instant) : String := String.ofList (t.text .shortest .letter)

end TopicReplay.Instant
