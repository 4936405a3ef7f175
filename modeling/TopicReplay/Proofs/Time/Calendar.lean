import Mathlib.Tactic.IntervalCases
import TopicReplay.Time.Calendar

/-!
# Days and dates

Every number of days has a date in the calendar, and the date has this number of
days. An era has four centuries, a century twenty-five groups of four years, and a
group four years that begin in March. The last day of an era, and of every group
but the last one of a century, is a leap day, which is the reason for the corrections
in the count of years.

The main statements are `toDays_ofDays`, `isValid_ofDays` and `le_year_ofDays_iff`.
-/

namespace TopicReplay.Time.Date

/-! ## Years of an era -/

/-- The place of a day in its era: the century, the group of four years in it, the
year of the group and the day of the year, all from zero. -/
structure Place where
  century : Int
  group : Int
  year : Int
  day : Int
  century_nonneg : 0 ≤ century
  century_le : century ≤ 3
  group_nonneg : 0 ≤ group
  group_le : group ≤ 24
  year_nonneg : 0 ≤ year
  year_le : year ≤ 3
  day_nonneg : 0 ≤ day
  /-- Only the last year of a group has a leap day, and none if it ends a century but the last. -/
  day_le : day ≤ 364 ∨ day = 365 ∧ year = 3 ∧ (group < 24 ∨ century = 3)

namespace Place

/-- The years of the era before the one of the day. -/
def years (place : Place) : Int := 100 * place.century + 4 * place.group + place.year

/-- The days of the century before the day. -/
def inCentury (place : Place) : Int := 1461 * place.group + 365 * place.year + place.day

/-- The days of the era before the day. -/
def inEra (place : Place) : Int := 36524 * place.century + place.inCentury

/-- Every day of an era has a place. -/
theorem exists_inEra {inEra : Int} (nonneg : 0 ≤ inEra) (below : inEra < daysPerEra) :
    ∃ place : Place, place.inEra = inEra := by
  unfold daysPerEra at below
  obtain ⟨century, century_nonneg, century_le, begun, ends⟩ : ∃ century : Int, 0 ≤ century ∧
      century ≤ 3 ∧ 36524 * century ≤ inEra ∧
        (inEra < 36524 * century + 36524 ∨ century = 3 ∧ inEra = 36524 * century + 36524) := by
    by_cases early : inEra / 36524 ≤ 3
    · exact ⟨inEra / 36524, by omega, early, by omega, by omega⟩
    · exact ⟨3, by omega, by omega, by omega, by omega⟩
  generalize left_eq : inEra - 36524 * century = left at *
  obtain ⟨year, year_nonneg, year_le, year_begun, year_ends⟩ : ∃ year : Int, 0 ≤ year ∧
      year ≤ 3 ∧ 365 * year ≤ left % 1461 ∧
        (left % 1461 < 365 * year + 365 ∨ year = 3 ∧ left % 1461 = 365 * year + 365) := by
    by_cases early : left % 1461 / 365 ≤ 3
    · exact ⟨left % 1461 / 365, by omega, early, by omega, by omega⟩
    · exact ⟨3, by omega, by omega, by omega, by omega⟩
  refine ⟨⟨century, left / 1461, year, left % 1461 - 365 * year, century_nonneg, century_le,
    by omega, by omega, year_nonneg, year_le, by omega, by omega⟩, ?_⟩
  simp only [Place.inEra, inCentury]
  omega

/-- The quotient by the days of a century is one too large on the last day of an era. -/
theorem centuries_eq (place : Place) :
    place.inEra / 36524 - place.inEra / 146096 = place.century := by
  rcases place with ⟨century, group, year, day, _, _, _, _, _, _, _, day_le⟩
  have left_nonneg : 0 ≤ 1461 * group + 365 * year + day := by omega
  have left_le : 1461 * group + 365 * year + day < 36524 ∨
      1461 * group + 365 * year + day = 36524 ∧ century = 3 := by omega
  simp only [inEra, inCentury]
  generalize 1461 * group + 365 * year + day = left at left_nonneg left_le
  rcases left_le with inside | ⟨rfl, rfl⟩
  · have quotient : (36524 * century + left) / 36524 = century := by omega
    omega
  · rfl

/-- The year that the calendar computes for a day. -/
theorem years_eq (place : Place) :
    (place.inEra - place.inEra / 1460 + place.inEra / 36524 - place.inEra / 146096) / 365 =
      place.years := by
  have centuries := place.centuries_eq
  rcases place with ⟨century, group, year, day, _, _, _, _, _, _, _, day_le⟩
  simp only [inEra, inCentury, years] at centuries ⊢
  generalize total : 36524 * century + (1461 * group + 365 * year + day) = days at centuries ⊢
  have quotient : days / 1460 =
      25 * century + group + (24 * century + group + 365 * year + day) / 1460 := by omega
  -- At the end of a group the quotient counts one leap day more than have passed.
  have extra : (24 * century + group + 365 * year + day) / 1460 = 0 ∨
      (24 * century + group + 365 * year + day) / 1460 = 1 ∧ year = 3 ∧ 1 ≤ day := by omega
  omega

theorem daysBeforeYear_years (place : Place) :
    daysBeforeYear place.years = place.inEra - place.day := by
  rcases place with ⟨century, group, year, day, _, _, _, _, _, _, _, day_le⟩
  simp only [daysBeforeYear, years, inEra, inCentury]
  omega

theorem years_nonneg (place : Place) : 0 ≤ place.years := by
  rcases place with ⟨century, group, year, day, _, _, _, _, _, _, _, day_le⟩
  simp only [years]
  omega

theorem years_le (place : Place) : place.years ≤ 399 := by
  rcases place with ⟨century, group, year, day, _, _, _, _, _, _, _, day_le⟩
  simp only [years]
  omega

theorem inEra_bounds (place : Place) : 0 ≤ place.inEra ∧ place.inEra < daysPerEra := by
  rcases place with ⟨century, group, year, day, _, _, _, _, _, _, _, day_le⟩
  simp only [inEra, inCentury, daysPerEra]
  omega

theorem day_le_365 (place : Place) : place.day ≤ 365 := by
  have le := place.day_le
  omega

/-- The year in which a leap day lies has one. -/
theorem isLeap_of_day_eq (place : Place) (leap : place.day = 365) (era : Int) :
    isLeap (place.years + era * 400 + 1) = true := by
  rcases place with ⟨century, group, year, day, _, _, _, _, _, _, _, day_le⟩
  simp only at leap
  simp only [isLeap, years, Bool.and_eq_true, Bool.or_eq_true, beq_iff_eq, bne_iff_ne]
  omega

end Place

/-! ## Months of a year -/

/-- The month that the calendar computes for a day of a year holds this day. -/
theorem month_bounds {day : Int} (nonneg : 0 ≤ day) (le : day ≤ 365) :
    0 ≤ (5 * day + 2) / 153 ∧ (5 * day + 2) / 153 ≤ 11 ∧
      daysBeforeMonth ((5 * day + 2) / 153) ≤ day ∧
        day < daysBeforeMonth ((5 * day + 2) / 153 + 1) := by
  unfold daysBeforeMonth
  omega

/-- A month of the year that begins in March, as a month of the civil year. -/
def civilMonth (month : Int) : Int := if month < 10 then month + 3 else month - 9

theorem civilMonth_bounds {month : Int} (nonneg : 0 ≤ month) (le : month ≤ 11) :
    1 ≤ civilMonth month ∧ civilMonth month ≤ 12 ∧ (civilMonth month + 9) % 12 = month := by
  unfold civilMonth
  split <;> omega

/-- Every month but February has the days from its start to the start of the next. -/
theorem daysInMonth_civilMonth {month : Int} (nonneg : 0 ≤ month) (lt : month < 11) (year : Int) :
    daysInMonth year (civilMonth month).toNat =
      daysBeforeMonth (month + 1) - daysBeforeMonth month := by
  interval_cases month <;> rfl

/-! ## Dates -/

/-- The months and days of the calendar. -/
theorem bounds_of_isValid {date : Date} (valid : date.isValid = true) :
    1 ≤ date.month ∧ date.month ≤ 12 ∧ 1 ≤ date.day ∧ date.day ≤ 31 := by
  rcases date with ⟨year, month, day⟩
  rw [isValid, Bool.and_eq_true, decide_eq_true_eq, decide_eq_true_eq] at valid
  dsimp only at valid ⊢
  unfold daysInMonth at valid
  split at valid <;> (try split at valid) <;> omega

/-- Every day lies in an era. -/
theorem exists_place (days : Int) :
    ∃ (era : Int) (place : Place), days + epochShift = place.inEra + era * daysPerEra := by
  have nonneg : 0 ≤ (days + epochShift) % daysPerEra := Int.emod_nonneg _ (by decide)
  have below : (days + epochShift) % daysPerEra < daysPerEra :=
    Int.emod_lt_of_pos _ (by decide)
  rcases Place.exists_inEra nonneg below with ⟨place, inEra⟩
  refine ⟨(days + epochShift) / daysPerEra, place, ?_⟩
  rw [inEra, Int.emod_add_ediv_mul]

section

variable {days era : Int} {place : Place}

/-- The date of a day, by its place in its era. -/
theorem ofDays_eq (shifted : days + epochShift = place.inEra + era * daysPerEra) :
    ofDays days =
      ⟨place.years + era * 400 + if civilMonth ((5 * place.day + 2) / 153) ≤ 2 then 1 else 0,
        (civilMonth ((5 * place.day + 2) / 153)).toNat,
        (place.day - daysBeforeMonth ((5 * place.day + 2) / 153) + 1).toNat⟩ := by
  have inside : 0 ≤ place.inEra ∧ place.inEra < daysPerEra := place.inEra_bounds
  have rest : (place.inEra + era * daysPerEra) % daysPerEra = place.inEra := by
    rw [Int.add_mul_emod_self_right, Int.emod_eq_of_lt inside.1 inside.2]
  have quotient : (place.inEra + era * daysPerEra) / daysPerEra = era := by
    rw [Int.add_mul_ediv_right _ _ (by decide), Int.ediv_eq_zero_of_lt inside.1 inside.2,
      Int.zero_add]
  simp only [ofDays, shifted, rest, quotient, place.years_eq, place.daysBeforeYear_years,
    Int.sub_sub_self, civilMonth]
  rfl

/-- The date of a number of days has this number of days. -/
theorem toDays_ofDays (days : Int) : (ofDays days).toDays = days := by
  rcases exists_place days with ⟨era, place, shifted⟩
  rcases month_bounds place.day_nonneg place.day_le_365 with ⟨month_nonneg, month_le, begun, _⟩
  rcases civilMonth_bounds month_nonneg month_le with ⟨civil_pos, _, back⟩
  have years_nonneg := place.years_nonneg
  have years_le := place.years_le
  have before := place.daysBeforeYear_years
  rw [ofDays_eq shifted]
  generalize (5 * place.day + 2) / 153 = month at *
  have number : ((civilMonth month).toNat : Int) = civilMonth month :=
    Int.toNat_of_nonneg (by omega)
  have year : (if (civilMonth month).toNat ≤ 2 then
        place.years + era * 400 + (if civilMonth month ≤ 2 then 1 else 0) - 1
      else place.years + era * 400 + if civilMonth month ≤ 2 then 1 else 0) =
        place.years + era * 400 := by
    split <;> split <;> omega
  have rest : (place.years + era * 400) % 400 = place.years := by omega
  have quotient : (place.years + era * 400) / 400 = era := by omega
  simp only [toDays, number, back, year, rest, quotient, before]
  omega

/-- The calendar has the date of every number of days. -/
theorem isValid_ofDays (days : Int) : (ofDays days).isValid = true := by
  rcases exists_place days with ⟨era, place, shifted⟩
  rcases month_bounds place.day_nonneg place.day_le_365 with
    ⟨month_nonneg, month_le, begun, not_over⟩
  have day_le := place.day_le_365
  have leap := place.isLeap_of_day_eq
  rw [ofDays_eq shifted]
  generalize (5 * place.day + 2) / 153 = month at *
  rw [isValid, Bool.and_eq_true, decide_eq_true_eq, decide_eq_true_eq]
  dsimp only
  constructor
  · omega
  · by_cases february : month = 11
    · subst february
      have start : daysBeforeMonth 11 = 337 := rfl
      rw [start]
      change _ ≤ if isLeap (place.years + era * 400 + 1) then 29 else 28
      by_cases last : place.day = 365
      · rw [if_pos (leap last era)]
        omega
      · split <;> omega
    · have days_in := daysInMonth_civilMonth month_nonneg (by omega)
        (place.years + era * 400 + if civilMonth month ≤ 2 then 1 else 0)
      omega

/-! ## Years -/

/-- The days before the March of a year, counted from the start of an era. -/
def daysBeforeMarch (year : Int) : Int := 365 * year + year / 4 - year / 100 + year / 400

theorem daysBeforeMarch_eq (year : Int) :
    year / 400 * daysPerEra + daysBeforeYear (year % 400) = daysBeforeMarch year := by
  simp only [daysPerEra, daysBeforeYear, daysBeforeMarch]
  omega

theorem daysBeforeMarch_succ (year : Int) :
    daysBeforeMarch (year + 1) =
      daysBeforeMarch year + 365 + if isLeap (year + 1) then 1 else 0 := by
  simp only [daysBeforeMarch, isLeap, Bool.and_eq_true, Bool.or_eq_true, beq_iff_eq, bne_iff_ne]
  split <;> omega

theorem daysBeforeMarch_le {first second : Int} (le : first ≤ second) :
    daysBeforeMarch first ≤ daysBeforeMarch second := by
  unfold daysBeforeMarch
  omega

theorem toDays_first (year : Int) :
    toDays ⟨year, 1, 1⟩ = daysBeforeMarch (year - 1) + 306 - epochShift := by
  rw [← daysBeforeMarch_eq]
  simp [toDays, daysBeforeMonth]

theorem Place.inEra_add (place : Place) (era : Int) :
    place.inEra + era * daysPerEra = daysBeforeMarch (place.years + era * 400) + place.day := by
  have years_nonneg := place.years_nonneg
  have years_le := place.years_le
  have before := place.daysBeforeYear_years
  have rest : (place.years + era * 400) % 400 = place.years := by omega
  have quotient : (place.years + era * 400) / 400 = era := by omega
  rw [← daysBeforeMarch_eq, rest, quotient, before]
  omega

theorem Place.day_lt (place : Place) (era : Int) :
    daysBeforeMarch (place.years + era * 400) + place.day <
      daysBeforeMarch (place.years + era * 400 + 1) := by
  have le := place.day_le_365
  rw [daysBeforeMarch_succ]
  by_cases last : place.day = 365
  · rw [if_pos (place.isLeap_of_day_eq last era)]
    omega
  · split <;> omega

/-- The date of a day lies in a year or later exactly if the day is not before the
first day of the year. -/
theorem le_year_ofDays_iff {days year : Int} :
    year ≤ (ofDays days).year ↔ toDays ⟨year, 1, 1⟩ ≤ days := by
  rcases exists_place days with ⟨era, place, shifted⟩
  rcases month_bounds place.day_nonneg place.day_le_365 with
    ⟨month_nonneg, month_le, begun, not_over⟩
  have day_nonneg := place.day_nonneg
  have next := place.day_lt era
  rw [ofDays_eq shifted, toDays_first]
  rw [place.inEra_add] at shifted
  generalize place.years + era * 400 = march at *
  generalize (5 * place.day + 2) / 153 = month at *
  -- The civil year is ahead of the one that began in March from January on.
  have late : civilMonth month ≤ 2 ↔ 306 ≤ place.day := by
    unfold daysBeforeMonth at begun not_over
    unfold civilMonth
    split <;> omega
  simp only [late]
  by_cases new : 306 ≤ place.day
  · rw [if_pos new]
    constructor
    · intro le
      have before : daysBeforeMarch (year - 1) ≤ daysBeforeMarch march :=
        daysBeforeMarch_le (by omega)
      omega
    · intro begun
      by_contra later
      have before : daysBeforeMarch (march + 1) ≤ daysBeforeMarch (year - 1) :=
        daysBeforeMarch_le (by omega)
      omega
  · rw [if_neg new]
    constructor
    · intro le
      have before : daysBeforeMarch (year - 1) ≤ daysBeforeMarch (march - 1) :=
        daysBeforeMarch_le (by omega)
      have long := daysBeforeMarch_succ (march - 1)
      rw [Int.sub_add_cancel] at long
      split at long <;> omega
    · intro begun
      by_contra later
      have before : daysBeforeMarch march ≤ daysBeforeMarch (year - 1) :=
        daysBeforeMarch_le (by omega)
      omega

end

end TopicReplay.Time.Date
