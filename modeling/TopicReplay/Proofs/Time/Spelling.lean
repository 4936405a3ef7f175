import TopicReplay.Proofs.Time.Layout

/-!
# Spellings of instants

An instant can be written in RFC 3339 on any clock that is some whole minutes ahead of UTC
or behind it, in UTC without a zone, and more shortly where what is left out is zero. For each
of these spellings there is a layout that reads it as the instant.

The main statement is `Spelling.exists_read`.
-/

namespace TopicReplay.Time

open TopicReplay.Text

/-! ## Texts -/

namespace Civil

/-- The text of a date. -/
def dateText (civil : Civil) : List Char :=
  yearText civil.date.year ++ '-' :: padded 2 civil.date.month ++ '-' :: padded 2 civil.date.day

/-- The text of a date and of its time up to the minutes, with a separator between them. -/
def minuteText (separator : Char) (civil : Civil) : List Char :=
  civil.dateText ++ separator :: padded 2 civil.hour ++ ':' :: padded 2 civil.minute

/-- The text of a date and time, with a separator between them. -/
def secondText (separator : Char) (civil : Civil) : List Char :=
  civil.minuteText separator ++ ':' :: padded 2 civil.second ++
    fractionText .shortest civil.nanos

theorem secondText_eq_text (civil : Civil) : civil.secondText 'T' = civil.text .shortest := by
  simp only [secondText, minuteText, dateText, text, List.append_assoc, List.cons_append]

end Civil

/-- The text of an offset of whole minutes from UTC. -/
def offsetText (minutes : Int) : List Char :=
  (if minutes < 0 then '-' else '+') :: padded 2 (minutes.natAbs / 60) ++
    ':' :: padded 2 (minutes.natAbs % 60)

/-- The texts that mean an instant whose year has four digits in UTC. -/
inductive Spelling (t : Instant) : List Char → Prop where
  /-- RFC 3339 on a clock that is so many minutes ahead of UTC and shows a year of four digits. -/
  | zoned {minutes : Int} {separator : Char} (near : minutes.natAbs < 1440)
      (least : 0 ≤ (t.toLocal (minutes * 60)).date.year)
      (most : (t.toLocal (minutes * 60)).date.year ≤ 9999) (known : separator ∈ ['T', 't', ' ']) :
      Spelling t ((t.toLocal (minutes * 60)).secondText separator ++ offsetText minutes)
  /-- RFC 3339 with the letter of UTC. -/
  | letter {letter : Char} {separator : Char} (zulu : letter = 'Z' ∨ letter = 'z')
      (known : separator ∈ ['T', 't', ' ']) :
      Spelling t (t.toCivil.secondText separator ++ [letter])
  /-- Without a zone. -/
  | seconds {separator : Char} (known : separator = 'T' ∨ separator = ' ') :
      Spelling t (t.toCivil.secondText separator)
  /-- Without a zone and seconds, which are zero. -/
  | minutes {separator : Char} (known : separator = 'T' ∨ separator = ' ')
      (whole : t.toCivil.second = 0 ∧ t.toCivil.nanos = 0) :
      Spelling t (t.toCivil.minuteText separator)
  /-- The date alone, the time being zero. -/
  | date (midnight : t.toCivil.hour = 0 ∧ t.toCivil.minute = 0)
      (whole : t.toCivil.second = 0 ∧ t.toCivil.nanos = 0) : Spelling t t.toCivil.dateText

/-! ## Parts of texts -/

section Parts

variable {kind : Field → Nat → Item} {reading next : Reading} {cs rest : List Char} {civil : Civil}

/-- Fields of both kinds take two digits of a number that is within the bounds. -/
theorem take_number (kinds : kind = .exact ∨ kind = .loose) {field : Field} {n : Nat}
    (not_year : field ≠ .year) (bounds : field.bounds.1 ≤ n ∧ (n : Int) ≤ field.bounds.2)
    (stops : rest.takeWhile isDigit = []) :
    (kind field 2).take reading (padded 2 n ++ rest) = .ok (reading.store field n, rest) := by
  rcases kinds with rfl | rfl
  · have two := length_padded_two (lt_of_bounds not_year bounds)
    have number : takeNumber 2 2 (padded 2 n ++ rest) = .ok (n, rest) :=
      takeNumber_padded (by omega) (by omega) stops
    simp only [Item.take, number]
    exact keep_of_bounds bounds
  · exact take_loose not_year bounds stops

/-- Fields of both kinds take the four digits of a year. -/
theorem take_year (kinds : kind = .exact ∨ kind = .loose) {year : Int} (least : 0 ≤ year)
    (most : year ≤ 9999) (stops : rest.takeWhile isDigit = []) :
    (kind .year 4).take reading (yearText year ++ rest) = .ok (reading.store .year year, rest) := by
  rcases kinds with rfl | rfl
  · have text : yearText year = padded 4 year.toNat := if_pos ⟨least, most⟩
    have four : (padded 4 year.toNat).length = 4 :=
      length_padded_of_lt (by decide) (by rw [show Nat.pow 10 4 = 10000 from rfl]; omega)
    have number : takeNumber 4 4 (padded 4 year.toNat ++ rest) = .ok (year.toNat, rest) :=
      takeNumber_padded (by omega) (by omega) stops
    have same : (year.toNat : Int) = year := Int.toNat_of_nonneg least
    simp only [Item.take, text, number]
    have kept : reading.keep .year (year, rest) = .ok (reading.store .year year, rest) :=
      keep_of_bounds (by simp only [Field.bounds, minInt32, maxInt32]; omega)
    rwa [← same] at kept ⊢
  · refine take_loose_year ?_ ?_ stops
    · unfold minInt32
      omega
    · unfold maxInt32
      omega

/-- Calendar and clock have the date and time, and the year has four digits. -/
structure Civil.Common (civil : Civil) : Prop where
  valid : civil.isValid = true
  least : 0 ≤ civil.date.year
  most : civil.date.year ≤ 9999

namespace Civil.Common

variable (common : civil.Common)

include common

theorem date_bounds : 1 ≤ civil.date.month ∧ civil.date.month ≤ 12 ∧ 1 ≤ civil.date.day ∧
    civil.date.day ≤ 31 := by
  have valid := common.valid
  simp only [Civil.isValid, Bool.and_eq_true, decide_eq_true_eq] at valid
  rcases valid with ⟨⟨⟨⟨⟨⟨date, _⟩, _⟩, _⟩, _⟩, _⟩, _⟩
  exact Date.bounds_of_isValid date

theorem clock_bounds : civil.hour ≤ 23 ∧ civil.minute ≤ 59 ∧ civil.second ≤ 60 ∧
    civil.nanos < nanosPerSecond := by
  have valid := common.valid
  simp only [Civil.isValid, Bool.and_eq_true, decide_eq_true_eq] at valid
  omega

theorem take_datePart (kinds : kind = .exact ∨ kind = .loose)
    (stops : rest.takeWhile isDigit = []) :
    (datePart kind).take {} (civil.dateText ++ rest) =
      .ok ({ year := civil.date.year, month := civil.date.month, day := civil.date.day },
        rest) := by
  rcases common.date_bounds with ⟨month_least, month_most, day_least, day_most⟩
  simp only [Civil.dateText, List.append_assoc, List.cons_append, datePart]
  rw [take_cons (take_year kinds common.least common.most rfl), take_cons (take_literal _),
    take_cons (take_number kinds (by decide) (by simp [Field.bounds]; omega) rfl),
    take_cons (take_literal _),
    take_cons (take_number kinds (by decide) (by simp [Field.bounds]; omega) stops)]
  rfl

theorem take_minutePart (kinds : kind = .exact ∨ kind = .loose)
    (stops : rest.takeWhile isDigit = []) :
    (minutePart kind).take reading
        (padded 2 civil.hour ++ ':' :: (padded 2 civil.minute ++ rest)) =
      .ok ({ reading with hour := civil.hour, minute := civil.minute }, rest) := by
  rcases common.clock_bounds with ⟨hour, minute, _, _⟩
  rw [minutePart, take_cons (take_number kinds (by decide) (by simp [Field.bounds]; omega) rfl),
    take_cons (take_literal _),
    take_cons (take_number kinds (by decide) (by simp [Field.bounds]; omega) stops)]
  rfl

theorem take_secondPart (kinds : kind = .exact ∨ kind = .loose) (unset : reading.nanos = 0)
    (stops : rest.takeWhile isDigit = []) (no_point : rest.head? ≠ some '.') :
    (secondPart kind).take reading
        (':' :: (padded 2 civil.second ++ (fractionText .shortest civil.nanos ++ rest))) =
      .ok ({ reading with second := civil.second, nanos := civil.nanos }, rest) := by
  rcases common.clock_bounds with ⟨_, _, second, nanos⟩
  have still_unset : (reading.store .second civil.second).nanos = 0 := unset
  rw [secondPart, take_cons (take_literal _),
    take_cons (take_number kinds (by decide) (by simp [Field.bounds]; omega)
      (takeWhile_fractionText _ _ stops)),
    take_cons (take_fraction nanos still_unset stops no_point)]
  rfl

end Civil.Common

end Parts

/-! ## Zones -/

section Zones

variable {rest : List Char}

theorem takePair_padded {n : Nat} (small : n < 100) :
    takePair (padded 2 n ++ rest) = .ok (n, rest) := by
  rcases List.length_eq_two.mp (length_padded_two small) with ⟨a, b, digits⟩
  have value := digitsFrom_padded 2 n
  rw [digits] at value ⊢
  simp only [List.cons_append, List.nil_append, takePair]
  simp only [digitsFrom] at value
  cases tens : digitValue? a with
  | none => rw [tens] at value; contradiction
  | some high =>
      cases ones : digitValue? b with
      | none => rw [tens] at value; simp [ones] at value
      | some low =>
          rw [tens] at value
          simp [ones] at value
          simp [value]

theorem takeOffset_padded {sign : Char} {direction : Int} {hours minutes : Nat}
    (directed : ∀ cs, takeSign (sign :: cs) = .ok (direction, cs)) (hours_small : hours < 100)
    (minutes_small : minutes < 60) :
    takeOffset (dropOne [':']) (sign :: padded 2 hours ++ ':' :: padded 2 minutes) =
      .ok (direction * (hours * 3600 + minutes * 60), []) := by
  have first : takePair (padded 2 hours ++ ':' :: padded 2 minutes) =
      .ok (hours, ':' :: padded 2 minutes) := takePair_padded hours_small
  have colon : dropOne [':'] (':' :: padded 2 minutes) = .ok (padded 2 minutes) := rfl
  have second : takePair (padded 2 minutes ++ []) = .ok (minutes, []) :=
    takePair_padded (by omega)
  rw [List.append_nil] at second
  simp only [takeOffset, List.cons_append, directed, first, colon, second, bind, Except.bind,
    if_pos minutes_small]
  rfl

/-- The text of an offset means as many seconds. -/
theorem takeZone_offsetText {minutes : Int} (near : minutes.natAbs < 1440) :
    takeZone (dropOne [':']) (offsetText minutes) = .ok (minutes * 60, []) := by
  have hours : minutes.natAbs / 60 < 100 := by omega
  have part : minutes.natAbs % 60 < 60 := Nat.mod_lt _ (by decide)
  unfold offsetText
  split
  case isTrue negative =>
    have signs : ∀ cs, takeSign ('-' :: cs) = .ok (-1, cs) := fun _ => rfl
    refine (takeOffset_padded signs hours part).trans ?_
    congr 2
    omega
  case isFalse =>
    have signs : ∀ cs, takeSign ('+' :: cs) = .ok (1, cs) := fun _ => rfl
    refine (takeOffset_padded signs hours part).trans ?_
    congr 2
    omega

end Zones

/-! ## Whole texts -/

section Texts

variable {civil : Civil} {t : Instant} {separator : Char} {item : Item}

/-- An item takes a separator and leaves the digits behind it. -/
def Separates (item : Item) (separator : Char) : Prop :=
  ∀ reading n rest, item.take reading (separator :: (padded 2 n ++ rest)) =
    .ok (reading, padded 2 n ++ rest)

theorem separates_oneOf (known : separator ∈ ['T', 't', ' ']) :
    Separates (.oneOf ['T', 't', ' ']) separator := fun _ _ _ => take_oneOf known

theorem separates_letter : Separates (.literal 'T') 'T' := fun _ _ _ => take_literal 'T'

theorem separates_blanks : Separates .blanks ' ' := by
  intro reading n rest
  have digits : trimLeft (padded 2 n ++ rest) = padded 2 n ++ rest :=
    trimLeft_digits (fun c member => isDigit_of_mem_padded member) (length_padded_pos _ _)
  have blank : trimLeft (' ' :: (padded 2 n ++ rest)) = trimLeft (padded 2 n ++ rest) := rfl
  rw [Item.take, blank, digits]

variable {kind : Field → Nat → Item} {rest : List Char}

theorem Civil.Common.take_minutes (common : civil.Common) (kinds : kind = .exact ∨ kind = .loose)
    (separates : Separates item separator) (visible : isDigit separator = false)
    (stops : rest.takeWhile isDigit = []) :
    Layout.take (datePart kind ++ item :: minutePart kind) {}
        (civil.minuteText separator ++ rest) =
      .ok ({ year := civil.date.year, month := civil.date.month, day := civil.date.day,
             hour := civil.hour, minute := civil.minute }, rest) := by
  have stops_date : (separator :: (padded 2 civil.hour ++
      ':' :: (padded 2 civil.minute ++ rest))).takeWhile isDigit = [] :=
    List.takeWhile_cons_of_neg (by simp [visible])
  simp only [Civil.minuteText, List.append_assoc, List.cons_append]
  rw [take_append (common.take_datePart kinds stops_date), take_cons (separates _ _ _),
    common.take_minutePart kinds stops]

theorem Civil.Common.take_seconds (common : civil.Common) (kinds : kind = .exact ∨ kind = .loose)
    (separates : Separates item separator) (visible : isDigit separator = false)
    (stops : rest.takeWhile isDigit = []) (no_point : rest.head? ≠ some '.') :
    Layout.take (datePart kind ++ item :: minutePart kind ++ secondPart kind) {}
        (civil.secondText separator ++ rest) =
      .ok ({ year := civil.date.year, month := civil.date.month, day := civil.date.day,
             hour := civil.hour, minute := civil.minute, second := civil.second,
             nanos := civil.nanos }, rest) := by
  have stops_minutes : (':' :: (padded 2 civil.second ++
      (fractionText .shortest civil.nanos ++ rest))).takeWhile isDigit = [] :=
    List.takeWhile_cons_of_neg (by decide)
  have text : civil.secondText separator ++ rest = civil.minuteText separator ++
      ':' :: (padded 2 civil.second ++ (fractionText .shortest civil.nanos ++ rest)) := by
    simp only [Civil.secondText, List.append_assoc, List.cons_append]
  rw [text, take_append (common.take_minutes kinds separates visible stops_minutes),
    common.take_secondPart kinds rfl stops no_point]

/-- What a layout reads of the text of a date and time on a clock. -/
def Civil.reading (civil : Civil) (offset : Int) : Reading :=
  ⟨civil.date.year, civil.date.month, civil.date.day, civil.hour, civil.minute, civil.second,
    civil.nanos, offset⟩

theorem Civil.Common.read_rfc3339 (common : civil.Common) (known : separator ∈ ['T', 't', ' '])
    {zone : List Char} {offset : Int} (taken : takeZone (dropOne [':']) zone = .ok (offset, []))
    (stops : zone.takeWhile isDigit = []) (no_point : zone.head? ≠ some '.') :
    Layout.rfc3339.read (civil.secondText separator ++ zone) =
      (civil.reading offset).toInstant := by
  have visible : isDigit separator = false := by
    simp only [List.mem_cons, List.not_mem_nil, or_false] at known
    rcases known with rfl | rfl | rfl <;> rfl
  have front := common.take_seconds (.inl rfl) (separates_oneOf known) visible stops no_point
  have parts : Layout.rfc3339 = (datePart .exact ++ .oneOf ['T', 't', ' '] :: minutePart .exact ++
      secondPart .exact) ++ [.zone] := rfl
  have whole : Layout.rfc3339.take {} (civil.secondText separator ++ zone) =
      .ok (civil.reading offset, []) := by
    rw [parts, take_append front, Layout.take, Item.take, taken]
    rfl
  rw [Layout.read, whole]

theorem Civil.Common.read_seconds (common : civil.Common) (separates : Separates item separator)
    (visible : isDigit separator = false) :
    (Layout.seconds item).read (civil.secondText separator) = (civil.reading 0).toInstant := by
  have taken := common.take_seconds (.inr rfl) separates visible
    (rfl : ([] : List Char).takeWhile isDigit = []) (by decide)
  rw [List.append_nil] at taken
  have whole : (Layout.seconds item).take {} (civil.secondText separator) =
    .ok (civil.reading 0, []) := taken
  rw [Layout.read, whole]

theorem Civil.Common.read_minutes (common : civil.Common) (separates : Separates item separator)
    (visible : isDigit separator = false) (zero : civil.second = 0 ∧ civil.nanos = 0) :
    (Layout.minutes item).read (civil.minuteText separator) = (civil.reading 0).toInstant := by
  have taken := common.take_minutes (.inr rfl) separates visible
    (rfl : ([] : List Char).takeWhile isDigit = [])
  rw [List.append_nil] at taken
  have whole : (Layout.minutes item).take {} (civil.minuteText separator) =
      .ok (civil.reading 0, []) := by
    rw [Civil.reading, zero.1, zero.2]
    exact taken
  rw [Layout.read, whole]

theorem Civil.Common.read_date (common : civil.Common)
    (midnight : civil.hour = 0 ∧ civil.minute = 0) (zero : civil.second = 0 ∧ civil.nanos = 0) :
    Layout.date.read civil.dateText = (civil.reading 0).toInstant := by
  have taken := common.take_datePart (.inr rfl) (rfl : ([] : List Char).takeWhile isDigit = [])
  rw [List.append_nil] at taken
  have whole : Layout.date.take {} civil.dateText = .ok (civil.reading 0, []) := by
    rw [Civil.reading, zero.1, zero.2, midnight.1, midnight.2]
    exact taken
  rw [Layout.read, whole]

end Texts

/-! ## Spellings -/

section Spellings

variable {t : Instant} {cs : List Char}

/-- A clock that is some whole minutes ahead of UTC shows a date and time of the calendar. -/
theorem common_toLocal {minutes : Int} (least : 0 ≤ (t.toLocal (minutes * 60)).date.year)
    (most : (t.toLocal (minutes * 60)).date.year ≤ 9999) :
    (t.toLocal (minutes * 60)).Common := by
  refine ⟨Instant.isValid_toLocal (Int.mul_emod_left _ _) ?_ ?_, least, most⟩
  · unfold minYear
    omega
  · unfold maxYear
    omega

theorem toInstant_reading {minutes : Int} (near : minutes.natAbs < 1440)
    (common : (t.toLocal (minutes * 60)).Common) :
    ((t.toLocal (minutes * 60)).reading (minutes * 60)).toInstant = .ok t := by
  have within : (minutes * 60).natAbs ≤ maxOffset := by
    unfold maxOffset
    omega
  have shown : ((t.toLocal (minutes * 60)).reading (minutes * 60)).toCivil =
    t.toLocal (minutes * 60) := rfl
  have ahead : ((t.toLocal (minutes * 60)).reading (minutes * 60)).offset = minutes * 60 := rfl
  rw [Reading.toInstant, shown, ahead, if_pos ⟨common.valid, within⟩,
    Instant.toInstant?_toLocal (Int.mul_emod_left minutes 60) common.valid]

/-- Every spelling of an instant follows a layout that reads it as this instant. -/
theorem Spelling.exists_read (least : 0 ≤ t.toCivil.date.year) (most : t.toCivil.date.year ≤ 9999)
    (spelling : Spelling t cs) :
    ∃ layout ∈ Layout.rfc3339 :: Layout.naive, layout.read cs = .ok t := by
  have common : t.toCivil.Common := ⟨t.isValid_toCivil, least, most⟩
  have utc : (t.toCivil.reading 0).toInstant = .ok t := toInstant_of_toCivil rfl rfl
  cases spelling with
  | @zoned minutes separator near least most known =>
      refine ⟨Layout.rfc3339, List.mem_cons_self, ?_⟩
      have shown := common_toLocal least most
      have sign : (offsetText minutes).takeWhile isDigit = [] ∧
          (offsetText minutes).head? ≠ some '.' := by
        unfold offsetText
        split <;> exact ⟨rfl, by simp⟩
      have read := shown.read_rfc3339 known (takeZone_offsetText near) sign.1 sign.2
      exact read.trans (toInstant_reading near shown)
  | letter zulu known =>
      refine ⟨Layout.rfc3339, List.mem_cons_self, ?_⟩
      rcases zulu with rfl | rfl
      · exact (common.read_rfc3339 known rfl rfl (by decide)).trans utc
      · exact (common.read_rfc3339 known rfl rfl (by decide)).trans utc
  | seconds known =>
      rcases known with rfl | rfl
      · exact ⟨_, by simp [Layout.naive], (common.read_seconds separates_letter rfl).trans utc⟩
      · exact ⟨_, by simp [Layout.naive], (common.read_seconds separates_blanks rfl).trans utc⟩
  | minutes known zero =>
      rcases known with rfl | rfl
      · exact ⟨_, by simp [Layout.naive], (common.read_minutes separates_letter rfl zero).trans utc⟩
      · exact ⟨_, by simp [Layout.naive], (common.read_minutes separates_blanks rfl zero).trans utc⟩
  | date midnight zero =>
      exact ⟨_, by simp [Layout.naive], (common.read_date midnight zero).trans utc⟩

/-! ### Nothing to trim -/

theorem trimLeft_dateText (civil : Civil) (rest : List Char) :
    trimLeft (civil.dateText ++ rest) = civil.dateText ++ rest := by
  simp only [Civil.dateText, List.append_assoc]
  exact trimLeft_yearText _ _

theorem trimLeft_secondText (separator : Char) (civil : Civil) (rest : List Char) :
    trimLeft (civil.secondText separator ++ rest) = civil.secondText separator ++ rest := by
  simp only [Civil.secondText, Civil.minuteText, List.append_assoc]
  exact trimLeft_dateText _ _

theorem endsVisible_padded (width n : Nat) : EndsVisible (padded width n) :=
  endsVisible_of_forall (List.ne_nil_of_length_pos (length_padded_pos width n)) fun _ =>
    isBlank_of_mem_padded

theorem endsVisible_secondText (separator : Char) (civil : Civil) :
    EndsVisible (civil.secondText separator) := by
  have second : EndsVisible (civil.minuteText separator ++ ':' :: padded 2 civil.second) :=
    ((endsVisible_padded 2 civil.second).cons ':').append _
  unfold Civil.secondText fractionText
  dsimp only
  split
  · rwa [List.append_nil]
  · split
    · exact ((endsVisible_padded 3 _).cons '.').append _
    · split
      · exact ((endsVisible_padded 6 _).cons '.').append _
      · exact ((endsVisible_padded 9 _).cons '.').append _

/-- No spelling has white space at its ends. -/
theorem Spelling.trim_eq (spelling : Spelling t cs) : trim cs = cs := by
  cases spelling with
  | zoned =>
      exact trim_eq_of_ends (trimLeft_secondText _ _ _)
        (((endsVisible_padded 2 _).cons ':').append _ |>.append _)
  | @letter letter _ zulu =>
      have visible : isBlank letter = false := by rcases zulu with rfl | rfl <;> rfl
      exact trim_eq_of_ends (trimLeft_secondText _ _ _) ⟨_, letter, rfl, visible⟩
  | @seconds separator =>
      have starts := trimLeft_secondText separator t.toCivil []
      rw [List.append_nil] at starts
      exact trim_eq_of_ends starts (endsVisible_secondText _ _)
  | minutes =>
      refine trim_eq_of_ends ?_ (((endsVisible_padded 2 _).cons ':').append _)
      simp only [Civil.minuteText, List.append_assoc]
      exact trimLeft_dateText _ _
  | date =>
      have starts := trimLeft_dateText t.toCivil []
      rw [List.append_nil] at starts
      exact trim_eq_of_ends starts (((endsVisible_padded 2 _).cons '-').append _)

end Spellings

end TopicReplay.Time
