import TopicReplay.Proofs.Time.Calendar
import TopicReplay.Time.Instant

/-!
# Instants and their dates and times

The date and time of an instant in UTC are ones that calendar and clock have, and
they mean this instant, also where it lies within a leap second. The same holds for
clocks that are some whole minutes ahead of UTC or behind it, since a leap second is
then the last one of a minute there too.

The main statements are `isValid_toCivil`, `toInstant?_toCivil` and `toInstant?_toLocal`.
-/

namespace TopicReplay.Instant

open Time

/-- The date and time of an instant on clocks that are so many seconds ahead of UTC. -/
def toLocal (t : Instant) (offset : Int) : Civil :=
  let seconds := t.seconds + offset
  let inDay := (seconds % secondsPerDay).toNat
  { date := Date.ofDays (seconds / secondsPerDay)
    hour := inDay / 3600
    minute := inDay / 60 % 60
    second := inDay % 60 + t.nanos / nanosPerSecond
    nanos := t.nanos % nanosPerSecond }

@[simp]
theorem toLocal_zero (t : Instant) : t.toLocal 0 = t.toCivil := by
  simp only [toLocal, toCivil, Int.add_zero]

section Local

variable {t : Instant} {offset : Int}

/-- A clock shows the second 60 exactly within a leap second. -/
theorem second_toLocal_eq_iff (whole : offset % 60 = 0) :
    (t.toLocal offset).second = 60 ↔ nanosPerSecond ≤ t.nanos := by
  have parts := t.representable.2.2
  simp only [toLocal, secondsPerDay]
  unfold nanosPerSecond at *
  omega

theorem isValid_toLocal (whole : offset % 60 = 0)
    (least : minYear ≤ (t.toLocal offset).date.year)
    (most : (t.toLocal offset).date.year ≤ maxYear) : (t.toLocal offset).isValid = true := by
  have date : (t.toLocal offset).date.isValid = true := Date.isValid_ofDays _
  have clock : (t.toLocal offset).hour < 24 ∧ (t.toLocal offset).minute < 60 ∧
      (t.toLocal offset).second ≤ 60 ∧ (t.toLocal offset).nanos < nanosPerSecond := by
    have parts := t.representable.2.2
    simp only [toLocal, secondsPerDay]
    unfold nanosPerSecond at *
    omega
  simp [Civil.isValid, date, least, most, clock]

/-- The date and time that clocks show for an instant mean this instant on them. -/
theorem toInstant?_toLocal (whole : offset % 60 = 0)
    (valid : (t.toLocal offset).isValid = true) :
    (t.toLocal offset).toInstant? offset = some t := by
  have days : (t.toLocal offset).date.toDays = (t.seconds + offset) / secondsPerDay :=
    Date.toDays_ofDays _
  have leap : (t.toLocal offset).second = 60 ↔ nanosPerSecond ≤ t.nanos :=
    second_toLocal_eq_iff whole
  have parts := t.representable.2.2
  have seconds : (t.toLocal offset).date.toDays * secondsPerDay +
      (t.toLocal offset).hour * 3600 + (t.toLocal offset).minute * 60 +
        (if (t.toLocal offset).second = 60 then 59 else (t.toLocal offset).second : Nat) -
          offset = t.seconds := by
    simp only [leap]
    rw [days]
    simp only [toLocal, secondsPerDay]
    unfold nanosPerSecond at *
    split <;> omega
  have nanos : (t.toLocal offset).nanos +
      (if (t.toLocal offset).second = 60 then nanosPerSecond else 0) = t.nanos := by
    simp only [leap]
    simp only [toLocal]
    unfold nanosPerSecond at *
    split <;> omega
  rw [Civil.toInstant?, if_pos valid]
  dsimp only
  rw [seconds, nanos, ofParts?_parts]

end Local

theorem minYear_le_year_toCivil (t : Instant) : minYear ≤ t.toCivil.date.year := by
  have first : Date.toDays ⟨minYear, 1, 1⟩ = -96465292 := by decide
  have least := t.representable.1
  apply Date.le_year_ofDays_iff.mpr
  rw [first]
  unfold minSeconds at least
  unfold secondsPerDay
  omega

theorem year_toCivil_le_maxYear (t : Instant) : t.toCivil.date.year ≤ maxYear := by
  have next : Date.toDays ⟨maxYear + 1, 1, 1⟩ = 95026237 := by decide
  have most := t.representable.2.1
  by_contra later
  have begun := Date.le_year_ofDays_iff.mp (Int.not_le.mp later)
  rw [next] at begun
  unfold maxSeconds at most
  unfold secondsPerDay at begun
  omega

/-- Calendar and clock have the date and time of every instant. -/
theorem isValid_toCivil (t : Instant) : t.toCivil.isValid = true := by
  have least := t.minYear_le_year_toCivil
  have most := t.year_toCivil_le_maxYear
  rw [← toLocal_zero] at least most ⊢
  exact isValid_toLocal rfl least most

/-- The date and time of an instant mean this instant. -/
theorem toInstant?_toCivil (t : Instant) : t.toCivil.toInstant? 0 = some t := by
  have valid := t.isValid_toCivil
  rw [← toLocal_zero] at valid ⊢
  exact toInstant?_toLocal rfl valid

/-- An instant cut to whole milliseconds. -/
def cut (t : Instant) : Instant where
  seconds := t.seconds
  nanos := t.nanos / 1000000 * 1000000
  representable := by
    rcases t.representable with ⟨least, most, nanos⟩
    refine ⟨least, most, ?_⟩
    unfold nanosPerSecond at *
    omega

/-- Cutting an instant changes its fraction and nothing else, also within a leap second. -/
theorem toCivil_cut (t : Instant) :
    t.cut.toCivil = { t.toCivil with nanos := t.toCivil.nanos / 1000000 * 1000000 } := by
  simp only [toCivil, cut, nanosPerSecond, Civil.mk.injEq, true_and]
  omega

theorem cut_eq_self_iff (t : Instant) : t.cut = t ↔ t.nanos % 1000000 = 0 := by
  rcases t with ⟨seconds, nanos, representable⟩
  simp only [cut, mk.injEq, true_and]
  omega

end TopicReplay.Instant
