import TopicReplay.Proofs.Text.Blank
import TopicReplay.Proofs.Text.Integer
import TopicReplay.Proofs.Time.Instant
import TopicReplay.Time.Rfc3339

/-!
# Reading back dates and times

Each item of a layout takes what was written for its part off the front of a text and
leaves the rest. A number is recognised as a whole if no digit follows it. The text of
an instant in UTC follows the loose layout of RFC 3339 to its end, and the layout reads
the instant.

The main statements are `read_canonical` and `read_millis`.
-/

namespace TopicReplay.Time

open TopicReplay.Text

/-! ## Digits at the front -/

theorem isBlank_of_isDigit {c : Char} (digit : isDigit c = true) : isBlank c = false := by
  rcases isDigit_iff.mp digit with ⟨least, most⟩
  have lower : 48 ≤ c.toNat := least
  have upper : c.toNat ≤ 57 := most
  simp [isBlank, inRanges, blankRanges]
  omega

theorem isBlank_of_mem_padded {width n : Nat} {c : Char} (member : c ∈ padded width n) :
    isBlank c = false :=
  isBlank_of_isDigit (isDigit_of_mem_padded member)

theorem isBlank_of_mem_integer {n : Int} {c : Char} (member : c ∈ integer n) :
    isBlank c = false := by
  rcases mem_integer member with rfl | digit
  · rfl
  · exact isBlank_of_isDigit digit

theorem trimLeft_cons {c : Char} (visible : isBlank c = false) (rest : List Char) :
    trimLeft (c :: rest) = c :: rest :=
  List.dropWhile_cons_of_neg (by simp [visible])

section Numbers

variable {ds rest : List Char}

theorem trimLeft_digits (digits : ∀ c ∈ ds, isDigit c = true) (some_digit : 0 < ds.length) :
    trimLeft (ds ++ rest) = ds ++ rest := by
  cases ds with
  | nil => exact absurd some_digit (Nat.lt_irrefl 0)
  | cons c ds => exact trimLeft_cons (isBlank_of_isDigit (digits c List.mem_cons_self)) _

/-- A run of digits that no digit follows is read as a whole. -/
theorem takeNumber_digits {least most : Nat} (digits : ∀ c ∈ ds, isDigit c = true)
    (enough : least ≤ ds.length) (not_more : ds.length ≤ most)
    (stops : rest.takeWhile isDigit = []) :
    takeNumber least most (ds ++ rest) = .ok ((digitsFrom 0 ds).getD 0, rest) := by
  have run : ((ds ++ rest).takeWhile isDigit).take most = ds := by
    rw [List.takeWhile_append_of_pos digits, stops, List.append_nil,
      List.take_of_length_le not_more]
  simp only [takeNumber, run]
  rw [if_neg (Nat.not_lt.mpr enough), List.drop_left]

theorem takeNumber_padded {width n least most : Nat} (enough : least ≤ (padded width n).length)
    (not_more : (padded width n).length ≤ most) (stops : rest.takeWhile isDigit = []) :
    takeNumber least most (padded width n ++ rest) = .ok (n, rest) := by
  rw [takeNumber_digits (fun c member => isDigit_of_mem_padded member) enough not_more stops,
    digitsFrom_padded]
  rfl

/-- Without a sign a number is read as it is. -/
theorem takeSigned_digits (digits : ∀ c ∈ ds, isDigit c = true) (some_digit : 0 < ds.length)
    (most : Nat) :
    takeSigned most (ds ++ rest) =
      (takeNumber 1 most (ds ++ rest)).map fun (n, rest) => ((n : Int), rest) := by
  cases ds with
  | nil => exact absurd some_digit (Nat.lt_irrefl 0)
  | cons c ds =>
      have digit := digits c List.mem_cons_self
      unfold takeSigned
      split
      · rename_i same
        cases same
        contradiction
      · rename_i same
        cases same
        contradiction
      · rfl

/-- The text of a year reads as this year. -/
theorem takeSigned_yearText (year : Int) (stops : rest.takeWhile isDigit = []) :
    takeSigned 4 (yearText year ++ rest) = .ok (year, rest) := by
  have digits : ∀ {n : Nat}, ∀ c ∈ padded 4 n, isDigit c = true := fun c member =>
    isDigit_of_mem_padded member
  have whole : ∀ n : Nat, takeNumber 1 (padded 4 n ++ rest).length (padded 4 n ++ rest) =
      .ok (n, rest) := fun n => by
    refine takeNumber_padded (length_padded_pos _ _) ?_ stops
    rw [List.length_append]
    exact Nat.le_add_right _ _
  unfold yearText
  split
  case isTrue short =>
    have four : (padded 4 year.toNat).length = 4 :=
      length_padded_of_lt (by decide) (by rw [show Nat.pow 10 4 = 10000 from rfl]; omega)
    rw [takeSigned_digits digits (by omega), takeNumber_padded (by omega) (by omega) stops]
    simp only [Except.map]
    congr 2
    omega
  case isFalse =>
    split
    case isTrue negative =>
      simp only [List.cons_append, takeSigned, whole, Except.map]
      congr 2
      omega
    case isFalse =>
      simp only [List.cons_append, takeSigned, whole, Except.map]
      congr 2
      omega

end Numbers

/-! ## Items -/

section Items

variable {reading : Reading} {rest : List Char}

theorem keep_of_bounds {field : Field} {value : Int}
    (bounds : field.bounds.1 ≤ value ∧ value ≤ field.bounds.2) :
    reading.keep field (value, rest) = .ok (reading.store field value, rest) := by
  simp only [Reading.keep, Reading.set, if_pos bounds, Except.map]

/-- A field other than the year has numbers of two digits. -/
theorem lt_of_bounds {field : Field} {n : Nat} (not_year : field ≠ .year)
    (bounds : field.bounds.1 ≤ n ∧ (n : Int) ≤ field.bounds.2) : n < 100 := by
  cases field with
  | year => contradiction
  | _ =>
      simp only [Field.bounds] at bounds
      omega

/-- A loose field takes two digits of a number that is within its bounds. -/
theorem take_loose {field : Field} {n : Nat} (not_year : field ≠ .year)
    (bounds : field.bounds.1 ≤ n ∧ (n : Int) ≤ field.bounds.2)
    (stops : rest.takeWhile isDigit = []) :
    (Item.loose field 2).take reading (padded 2 n ++ rest) =
      .ok (reading.store field n, rest) := by
  have two := length_padded_two (lt_of_bounds not_year bounds)
  have visible : trimLeft (padded 2 n ++ rest) = padded 2 n ++ rest :=
    trimLeft_digits (fun c member => isDigit_of_mem_padded member) (by omega)
  have number : takeNumber 1 2 (padded 2 n ++ rest) = .ok (n, rest) :=
    takeNumber_padded (by omega) (by omega) stops
  cases field with
  | year => contradiction
  | _ =>
      simp only [Item.take, visible, number]
      exact keep_of_bounds bounds

theorem trimLeft_yearText (year : Int) (rest : List Char) :
    trimLeft (yearText year ++ rest) = yearText year ++ rest := by
  unfold yearText
  split
  · exact trimLeft_digits (fun c member => isDigit_of_mem_padded member) (length_padded_pos _ _)
  · split <;> exact trimLeft_cons rfl _

/-- A loose year takes the text of a year. -/
theorem take_loose_year {year : Int} (least : minInt32 ≤ year) (most : year ≤ maxInt32)
    (stops : rest.takeWhile isDigit = []) :
    (Item.loose .year 4).take reading (yearText year ++ rest) =
      .ok (reading.store .year year, rest) := by
  simp only [Item.take, trimLeft_yearText, takeSigned_yearText year stops]
  exact keep_of_bounds ⟨least, most⟩

theorem take_literal (c : Char) :
    (Item.literal c).take reading (c :: rest) = .ok (reading, rest) := by
  simp [Item.take, dropOne, Except.map]

theorem take_oneOf {choices : List Char} {c : Char} (allowed : c ∈ choices) :
    (Item.oneOf choices).take reading (c :: rest) = .ok (reading, rest) := by
  simp [Item.take, dropOne, Except.map, allowed]

theorem take_blanks {c : Char} (visible : isBlank c = false) :
    Item.blanks.take reading (c :: rest) = .ok (reading, c :: rest) := by
  rw [Item.take, trimLeft_cons visible]

/-- The digits after a point are the nanoseconds in the unit of the last digit. -/
theorem take_fraction_padded {width n nanos : Nat} (positive : 0 < width) (most : width ≤ 9)
    (fits : n < Nat.pow 10 width) (unit : n * Nat.pow 10 (9 - width) = nanos)
    (stops : rest.takeWhile isDigit = []) :
    Item.fraction.take reading ('.' :: padded width n ++ rest) =
      .ok ({ reading with nanos }, rest) := by
  have length := length_padded_of_lt positive fits
  have run : (padded width n ++ rest).takeWhile isDigit = padded width n := by
    rw [List.takeWhile_append_of_pos fun c member => isDigit_of_mem_padded member, stops,
      List.append_nil]
  have all : (padded width n).take 9 = padded width n := List.take_of_length_le (by omega)
  have some_digit : (padded width n).isEmpty = false := by
    rw [List.isEmpty_eq_false_iff_exists_mem]
    exact List.exists_mem_of_length_pos (by omega)
  simp only [List.cons_append, Item.take, takeFraction, run, all, some_digit, digitsFrom_padded,
    length, Except.map, Option.getD_some, List.drop_left' length, unit]
  rfl

theorem takeWhile_fractionText (precision : Precision) (nanos : Nat)
    (stops : rest.takeWhile isDigit = []) :
    (fractionText precision nanos ++ rest).takeWhile isDigit = [] := by
  unfold fractionText
  split
  · split
    · exact stops
    · split
      · rfl
      · split <;> rfl
  · rfl
  · exact stops

/-- The fraction that is written for nanoseconds means them. -/
theorem take_fraction {nanos : Nat} (fits : nanos < nanosPerSecond) (whole : reading.nanos = 0)
    (stops : rest.takeWhile isDigit = []) (no_point : rest.head? ≠ some '.') :
    Item.fraction.take reading (fractionText .shortest nanos ++ rest) =
      .ok ({ reading with nanos }, rest) := by
  unfold nanosPerSecond at fits
  simp only [fractionText]
  split
  case isTrue none =>
    subst none
    rw [List.nil_append, ← whole]
    simp only [Item.take]
    split
    · contradiction
    · rfl
  case isFalse =>
    split
    case isTrue millis =>
      have unit := Nat.div_mul_cancel (Nat.dvd_of_mod_eq_zero millis)
      exact take_fraction_padded (by decide) (by decide) (Nat.div_lt_of_lt_mul fits) unit stops
    case isFalse =>
      split
      case isTrue micros =>
        have unit := Nat.div_mul_cancel (Nat.dvd_of_mod_eq_zero micros)
        exact take_fraction_padded (by decide) (by decide) (Nat.div_lt_of_lt_mul fits) unit stops
      case isFalse =>
        exact take_fraction_padded (by decide) (by decide) fits (Nat.mul_one nanos) stops

end Items

/-! ## Layouts -/

theorem take_cons {item : Item} {items : Layout} {reading next : Reading} {cs rest : List Char}
    (taken : item.take reading cs = .ok (next, rest)) :
    Layout.take (item :: items) reading cs = items.take next rest := by
  rw [Layout.take, taken]

theorem take_append {a b : Layout} {reading next : Reading} {cs rest : List Char}
    (taken : a.take reading cs = .ok (next, rest)) :
    Layout.take (a ++ b) reading cs = b.take next rest := by
  induction a generalizing reading cs with
  | nil =>
      cases taken
      rfl
  | cons item items ih =>
      unfold Layout.take at taken
      split at taken
      case h_1 first =>
        rw [List.cons_append, take_cons first]
        exact ih taken
      case h_2 => contradiction

/-- The layout of a date, in fields of some kind. -/
def datePart (kind : Field → Nat → Item) : Layout :=
  [kind .year 4, .literal '-', kind .month 2, .literal '-', kind .day 2]

/-- The layout of hours and minutes. -/
def minutePart (kind : Field → Nat → Item) : Layout :=
  [kind .hour 2, .literal ':', kind .minute 2]

/-- The layout of the seconds behind them. -/
def secondPart (kind : Field → Nat → Item) : Layout :=
  [.literal ':', kind .second 2, .fraction]

/-! ## Instants -/

/-- The loose layout takes the text of a date and time with the letter of UTC, and of its
fraction so much as was written. -/
theorem take_text_of_fraction {civil : Civil} {precision : Precision} {nanos : Nat}
    (valid : civil.isValid = true)
    (fraction : ∀ reading : Reading, reading.nanos = 0 →
      Item.fraction.take reading (fractionText precision civil.nanos ++ ['Z']) =
        .ok ({ reading with nanos }, ['Z'])) :
    Layout.rfc3339Loose.take {} (civil.text precision ++ ['Z']) =
      .ok (⟨civil.date.year, civil.date.month, civil.date.day, civil.hour, civil.minute,
        civil.second, nanos, 0⟩, []) := by
  simp only [Civil.isValid, Bool.and_eq_true, decide_eq_true_eq] at valid
  rcases valid with ⟨⟨⟨⟨⟨⟨date, least⟩, most⟩, hour⟩, minute⟩, second⟩, -⟩
  rcases Date.bounds_of_isValid date with ⟨month_least, month_most, day_least, day_most⟩
  have year : minInt32 ≤ civil.date.year ∧ civil.date.year ≤ maxInt32 := by
    unfold minYear at least
    unfold maxYear at most
    unfold minInt32 maxInt32
    omega
  simp only [Civil.text, List.append_assoc, List.cons_append, Layout.rfc3339Loose]
  rw [take_cons (take_loose_year year.1 year.2 rfl), take_cons (take_blanks rfl),
    take_cons (take_literal _),
    take_cons (take_loose (by decide) (by simp [Field.bounds]; omega) rfl),
    take_cons (take_blanks rfl), take_cons (take_literal _),
    take_cons (take_loose (by decide) (by simp [Field.bounds]; omega) rfl),
    take_cons (take_oneOf (by decide)),
    take_cons (take_loose (by decide) (by simp [Field.bounds]; omega) rfl),
    take_cons (take_blanks rfl), take_cons (take_literal _),
    take_cons (take_loose (by decide) (by simp [Field.bounds]; omega) rfl),
    take_cons (take_blanks rfl), take_cons (take_literal _),
    take_cons (take_loose (by decide) (by simp [Field.bounds]; omega)
      (takeWhile_fractionText _ _ rfl)),
    take_cons (fraction _ rfl), take_cons (take_blanks rfl)]
  rfl

theorem take_text {civil : Civil} (valid : civil.isValid = true) :
    Layout.rfc3339Loose.take {} (civil.text .shortest ++ ['Z']) =
      .ok (⟨civil.date.year, civil.date.month, civil.date.day, civil.hour, civil.minute,
        civil.second, civil.nanos, 0⟩, []) := by
  have fits : civil.nanos < nanosPerSecond := by
    simp only [Civil.isValid, Bool.and_eq_true, decide_eq_true_eq] at valid
    exact valid.2
  exact take_text_of_fraction valid fun reading whole => take_fraction fits whole rfl (by decide)

/-- With three digits the fraction is cut to milliseconds. -/
theorem take_text_millis {civil : Civil} (valid : civil.isValid = true) :
    Layout.rfc3339Loose.take {} (civil.text .millis ++ ['Z']) =
      .ok (⟨civil.date.year, civil.date.month, civil.date.day, civil.hour, civil.minute,
        civil.second, civil.nanos / 1000000 * 1000000, 0⟩, []) := by
  have fits : civil.nanos < nanosPerSecond := by
    simp only [Civil.isValid, Bool.and_eq_true, decide_eq_true_eq] at valid
    exact valid.2
  exact take_text_of_fraction valid fun reading whole =>
    take_fraction_padded (by decide) (by decide) (Nat.div_lt_of_lt_mul fits) rfl rfl

/-- A reading of the date and time of an instant in UTC means this instant. -/
theorem toInstant_of_toCivil {reading : Reading} {t : Instant}
    (same : reading.toCivil = t.toCivil) (utc : reading.offset = 0) :
    reading.toInstant = .ok t := by
  have fits : t.toCivil.isValid = true ∧ (0 : Int).natAbs ≤ maxOffset :=
    ⟨t.isValid_toCivil, by decide⟩
  rw [Reading.toInstant, same, utc, if_pos fits, t.toInstant?_toCivil]

/-- Reading the text of an instant gives it back. -/
theorem read_canonical (t : Instant) :
    Layout.rfc3339Loose.read (t.text .shortest .letter) = .ok t := by
  rw [Layout.read, Instant.text, ZoneStyle.text, take_text t.isValid_toCivil]
  exact toInstant_of_toCivil rfl rfl

/-- Reading the text of an instant with milliseconds gives it back without the rest. -/
theorem read_millis (t : Instant) :
    Layout.rfc3339Loose.read (t.text .millis .letter) = .ok t.cut := by
  rw [Layout.read, Instant.text, ZoneStyle.text, take_text_millis t.isValid_toCivil]
  exact toInstant_of_toCivil t.toCivil_cut.symm rfl

/-! ## Visible characters -/

theorem visible_yearText (year : Int) : ∀ c ∈ yearText year, isBlank c = false := by
  have digits : ∀ n, ∀ c ∈ padded 4 n, isBlank c = false := fun _ _ => isBlank_of_mem_padded
  unfold yearText
  split
  · exact digits year.toNat
  · split
    · exact List.forall_mem_cons.mpr ⟨rfl, digits year.natAbs⟩
    · exact List.forall_mem_cons.mpr ⟨rfl, digits year.natAbs⟩

theorem visible_fractionText (precision : Precision) (nanos : Nat) :
    ∀ c ∈ fractionText precision nanos, isBlank c = false := by
  have digits : ∀ width n, ∀ c ∈ '.' :: padded width n, isBlank c = false := fun _ _ =>
    List.forall_mem_cons.mpr ⟨rfl, fun _ => isBlank_of_mem_padded⟩
  have nothing : ∀ c ∈ ([] : List Char), isBlank c = false := List.forall_mem_nil _
  cases precision with
  | shortest =>
      dsimp only [fractionText]
      split
      · exact nothing
      · split
        · exact digits 3 _
        · split
          · exact digits 6 _
          · exact digits 9 _
  | millis => exact digits 3 _
  | seconds => exact nothing

/-- The text of an instant has no white space in it. -/
theorem visible_text (precision : Precision) (zone : ZoneStyle) (t : Instant) :
    ∀ c ∈ t.text precision zone, isBlank c = false := by
  have digits : ∀ n, ∀ c ∈ padded 2 n, isBlank c = false := fun _ _ => isBlank_of_mem_padded
  have zoneVisible : zone.text.any isBlank = false := by cases zone <;> rfl
  simp only [Instant.text, Civil.text, List.forall_mem_append, List.forall_mem_cons]
  exact ⟨⟨⟨⟨⟨⟨⟨visible_yearText _, rfl, digits _⟩, rfl, digits _⟩, rfl, digits _⟩, rfl, digits _⟩,
    rfl, digits _⟩, visible_fractionText precision _⟩, visible_of_any zoneVisible⟩

/-! ## Lengths -/

theorem length_yearText_le {year : Int} (least : minYear ≤ year) (most : year ≤ maxYear) :
    (yearText year).length ≤ 7 := by
  unfold minYear at least
  unfold maxYear at most
  have digits : ∀ n : Nat, n < 1000000 → (padded 4 n).length ≤ 6 := fun n small =>
    length_padded_le (by decide) (by decide) small
  unfold yearText
  split
  · exact (digits year.toNat (by omega)).trans (by decide)
  · exact Nat.succ_le_succ (digits year.natAbs (by omega))

theorem length_fractionText_le {nanos : Nat} (fits : nanos < nanosPerSecond) :
    (fractionText .shortest nanos).length ≤ 10 := by
  have digits : ∀ width n : Nat, width ≤ 9 → n < 1000000000 → (padded width n).length ≤ 9 :=
    fun width n narrow small => length_padded_le narrow (by decide) small
  unfold nanosPerSecond at fits
  simp only [fractionText]
  split
  · exact Nat.zero_le _
  · split
    · exact Nat.succ_le_succ (digits _ _ (by decide) (by omega))
    · split
      · exact Nat.succ_le_succ (digits _ _ (by decide) (by omega))
      · exact Nat.succ_le_succ (digits _ _ (by decide) (by omega))

/-- The text of an instant is short. -/
theorem length_text_le (t : Instant) : (t.text .shortest .letter).length ≤ 33 := by
  have valid := t.isValid_toCivil
  simp only [Civil.isValid, Bool.and_eq_true, decide_eq_true_eq] at valid
  rcases valid with ⟨⟨⟨⟨⟨⟨date, least⟩, most⟩, hour⟩, minute⟩, second⟩, nanos⟩
  rcases Date.bounds_of_isValid date with ⟨-, month, -, day⟩
  have two : ∀ n : Nat, n < 100 → (padded 2 n).length ≤ 2 := fun n small =>
    length_padded_le (by decide) (by decide) small
  have month_two := two t.toCivil.date.month (by omega)
  have day_two := two t.toCivil.date.day (by omega)
  have hour_two := two t.toCivil.hour (by omega)
  have minute_two := two t.toCivil.minute (by omega)
  have second_two := two t.toCivil.second (by omega)
  have year := length_yearText_le least most
  have fraction := length_fractionText_le nanos
  simp only [Instant.text, Civil.text, ZoneStyle.text, List.length_append, List.length_cons,
    List.length_nil]
  omega

end TopicReplay.Time
