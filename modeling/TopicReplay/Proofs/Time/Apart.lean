import Mathlib.Data.List.Pairwise
import Mathlib.Data.List.TakeWhile
import TopicReplay.Proofs.Except
import TopicReplay.Proofs.Time.Layout

/-!
# No text follows two layouts

What an item leaves of a text does not depend on what was read before, and an exact field
leaves what the loose one does. So two layouts with the same parts leave the same rest of a
text behind them, and it remains to compare how they go on: where one of them ends the other
needs a character, and no clock time begins with the letter that separates it from a date.

The main statements are `pairwise_apart` and `exists_dash`.
-/

namespace TopicReplay.Time

open TopicReplay.Text

/-! ## What items leave -/

/-- The item takes something off the text and leaves this rest. -/
def Item.Leaves (item : Item) (cs rest : List Char) : Prop :=
  ∃ reading next, item.take reading cs = .ok (next, rest)

section Items

variable {cs rest : List Char}

theorem rest_of_keep {reading next : Reading} {field : Field} {read : Int × List Char}
    (kept : reading.keep field read = .ok (next, rest)) : read.2 = rest := by
  rcases map_eq_ok_iff.mp kept with ⟨_, _, equal⟩
  exact congrArg Prod.snd equal

/-- What is left behind a number is left when the number is stored. -/
theorem exists_read {α : Type} {reader : Except Fault (α × List Char)} {next : Reading}
    {onward : α × List Char → Except Fault (Reading × List Char)}
    (taken : reader >>= onward = .ok (next, rest))
    (keeps : ∀ read, onward read = .ok (next, rest) → read.2 = rest) :
    ∃ n, reader = .ok (n, rest) := by
  rcases bind_eq_ok_iff.mp taken with ⟨⟨n, left⟩, number, kept⟩
  cases keeps _ kept
  exact ⟨n, number⟩

theorem leaves_exact {field : Field} {width : Nat}
    (left : (Item.exact field width).Leaves cs rest) :
    ∃ n, takeNumber width width cs = .ok (n, rest) := by
  rcases left with ⟨reading, next, taken⟩
  exact exists_read taken fun _ => rest_of_keep

theorem leaves_year {width : Nat} (left : (Item.loose .year width).Leaves cs rest) :
    ∃ n, takeSigned width (trimLeft cs) = .ok (n, rest) := by
  rcases left with ⟨reading, next, taken⟩
  exact exists_read taken fun _ => rest_of_keep

theorem leaves_loose {field : Field} {width : Nat} (not_year : field ≠ .year)
    (left : (Item.loose field width).Leaves cs rest) :
    ∃ n, takeNumber 1 width (trimLeft cs) = .ok (n, rest) := by
  rcases left with ⟨reading, next, taken⟩
  cases field with
  | year => contradiction
  | _ => exact exists_read taken fun _ => rest_of_keep

theorem dropOne_eq_ok {choices : List Char} (dropped : dropOne choices cs = .ok rest) :
    ∃ c ∈ choices, cs = c :: rest := by
  unfold dropOne at dropped
  split at dropped
  case h_1 => contradiction
  case h_2 c tail =>
    split at dropped
    case isTrue member =>
      cases dropped
      exact ⟨c, member, rfl⟩
    case isFalse => contradiction

theorem leaves_oneOf {choices : List Char} (left : (Item.oneOf choices).Leaves cs rest) :
    ∃ c ∈ choices, cs = c :: rest := by
  rcases left with ⟨reading, next, taken⟩
  rcases map_eq_ok_iff.mp taken with ⟨left, dropped, equal⟩
  cases equal
  exact dropOne_eq_ok dropped

theorem leaves_literal {c : Char} (left : (Item.literal c).Leaves cs rest) : cs = c :: rest := by
  rcases left with ⟨reading, next, taken⟩
  rcases map_eq_ok_iff.mp taken with ⟨left, dropped, equal⟩
  cases equal
  rcases dropOne_eq_ok dropped with ⟨d, member, rfl⟩
  rw [List.mem_singleton.mp member]

theorem leaves_blanks (left : Item.blanks.Leaves cs rest) : trimLeft cs = rest := by
  rcases left with ⟨reading, next, taken⟩
  cases taken
  rfl

end Items

/-! ## Items that agree -/

/-- Whatever text two items take something off, they leave the same rest. -/
def Item.Agree (a b : Item) : Prop :=
  ∀ ⦃cs rest other⦄, a.Leaves cs rest → b.Leaves cs other → rest = other

section Agree

variable {field : Field} {width : Nat}

/-- A reader leaves one rest. -/
theorem rest_eq_of_ok {α : Type} {reader : Except Fault (α × List Char)} {a b : α}
    {rest other : List Char} (first : reader = .ok (a, rest)) (second : reader = .ok (b, other)) :
    rest = other :=
  (Prod.mk.inj (Except.ok.inj (first.symm.trans second))).2

theorem exists_of_map {α β : Type} {reader : Except Fault (α × List Char)}
    {f : α × List Char → β × List Char} {b : β} {rest : List Char}
    (taken : reader.map f = .ok (b, rest)) (keeps : ∀ read, (f read).2 = read.2) :
    ∃ a, reader = .ok (a, rest) := by
  rcases map_eq_ok_iff.mp taken with ⟨⟨a, left⟩, read, equal⟩
  have same : left = rest := (keeps (a, left)).symm.trans (congrArg Prod.snd equal)
  subst same
  exact ⟨a, read⟩

/-- What was read before does not matter for the rest that an item leaves. -/
theorem Item.agree_self (item : Item) : item.Agree item := by
  intro cs rest other first second
  cases item with
  | exact field width =>
      rcases leaves_exact first with ⟨n, number⟩
      rcases leaves_exact second with ⟨m, again⟩
      exact rest_eq_of_ok number again
  | loose field width =>
      by_cases year : field = .year
      · subst year
        rcases leaves_year first with ⟨n, number⟩
        rcases leaves_year second with ⟨m, again⟩
        exact rest_eq_of_ok number again
      · rcases leaves_loose year first with ⟨n, number⟩
        rcases leaves_loose year second with ⟨m, again⟩
        exact rest_eq_of_ok number again
  | literal c =>
      exact (List.cons.inj ((leaves_literal first).symm.trans (leaves_literal second))).2
  | oneOf choices =>
      rcases leaves_oneOf first with ⟨c, _, rfl⟩
      rcases leaves_oneOf second with ⟨d, _, same⟩
      exact (List.cons.inj same).2
  | blanks => exact (leaves_blanks first).symm.trans (leaves_blanks second)
  | fraction =>
      rcases first with ⟨_, _, taken⟩
      rcases second with ⟨_, _, again⟩
      simp only [Item.take] at taken again
      split at taken
      case h_1 =>
        rcases exists_of_map taken fun _ => rfl with ⟨a, read⟩
        rcases exists_of_map again fun _ => rfl with ⟨b, reread⟩
        exact rest_eq_of_ok read reread
      case h_2 no_point =>
        split at again
        case h_1 rest => exact absurd rfl (no_point rest)
        case h_2 =>
          cases taken
          cases again
          rfl
  | zone | looseZone =>
      rcases first with ⟨_, _, taken⟩
      rcases second with ⟨_, _, again⟩
      rcases exists_of_map taken fun _ => rfl with ⟨a, read⟩
      rcases exists_of_map again fun _ => rfl with ⟨b, reread⟩
      exact rest_eq_of_ok read reread

/-- A number of at least one digit begins with it. -/
theorem exists_digit_of_takeNumber {least most n : Nat} {cs rest : List Char}
    (positive : 0 < least) (number : takeNumber least most cs = .ok (n, rest)) :
    ∃ d run, isDigit d = true ∧ cs = d :: run ++ rest := by
  have front : (cs.takeWhile isDigit).take most <+: cs :=
    (List.take_prefix _ _).trans (List.takeWhile_prefix _)
  have digits : ∀ c ∈ (cs.takeWhile isDigit).take most, isDigit c = true := fun c member =>
    List.mem_takeWhile_imp (List.mem_of_mem_take member)
  have whole := List.prefix_iff_eq_append.mp front
  unfold takeNumber at number
  dsimp only at number
  split at number
  case isTrue => contradiction
  case isFalse enough =>
    have left := (Prod.mk.inj (Except.ok.inj number)).2
    rw [left] at whole
    cases taken : (cs.takeWhile isDigit).take most with
    | nil => exact absurd positive (by simpa [taken] using enough)
    | cons d run =>
        rw [taken] at whole digits
        exact ⟨d, run, digits d List.mem_cons_self, whole.symm⟩

/-- An exact number is also one that may be shorter. -/
theorem takeNumber_one_of_exact {n : Nat} {cs rest : List Char} (positive : 0 < width)
    (number : takeNumber width width cs = .ok (n, rest)) :
    takeNumber 1 width cs = .ok (n, rest) := by
  unfold takeNumber at number ⊢
  dsimp only at number ⊢
  split at number
  case isTrue => contradiction
  case isFalse enough => rwa [if_neg (by omega)]

/-- An exact field leaves what the loose field does. -/
theorem agree_exact_loose (field : Field) (positive : 0 < width) :
    (Item.exact field width).Agree (.loose field width) := by
  intro cs rest other first second
  rcases leaves_exact first with ⟨n, number⟩
  rcases exists_digit_of_takeNumber positive number with ⟨d, run, digit, rfl⟩
  have short := takeNumber_one_of_exact positive number
  have visible : trimLeft (d :: run ++ rest) = d :: run ++ rest :=
    trimLeft_cons (isBlank_of_isDigit digit) _
  by_cases year : field = .year
  · subst year
    rcases leaves_year second with ⟨m, again⟩
    have digits : ∀ c ∈ [d], isDigit c = true := fun c member => by
      rwa [List.mem_singleton.mp member]
    have plain := @takeSigned_digits [d] (run ++ rest) digits Nat.one_pos width
    rw [visible] at again
    rcases exists_of_map (plain.symm.trans again) fun _ => rfl with ⟨k, number_too⟩
    exact rest_eq_of_ok short number_too
  · rcases leaves_loose year second with ⟨m, again⟩
    rw [visible] at again
    exact rest_eq_of_ok short again

end Agree

/-! ## Layouts -/

namespace Layout

/-- The items of the layout take something off the text, one after the other, and leave
this rest. -/
def Leaves : Layout → List Char → List Char → Prop
  | [], cs, rest => cs = rest
  | item :: items, cs, rest => ∃ between, item.Leaves cs between ∧ Leaves items between rest

/-- Whatever text two layouts take something off, they leave the same rest. -/
def Agree (a b : Layout) : Prop :=
  ∀ ⦃cs rest other⦄, a.Leaves cs rest → b.Leaves cs other → rest = other

/-- No text follows both layouts to its end. -/
def Apart (a b : Layout) : Prop := ∀ ⦃cs⦄, a.Leaves cs [] → ¬ b.Leaves cs []

section Layouts

variable {item counterpart : Item} {a b front counterparts : Layout} {cs rest : List Char}

theorem leaves_append_iff :
    Leaves (a ++ b) cs rest ↔ ∃ between, a.Leaves cs between ∧ b.Leaves between rest := by
  induction a generalizing cs with
  | nil => simp [Leaves]
  | cons item a ih =>
      simp only [List.cons_append, Leaves, ih]
      constructor
      · rintro ⟨first, taken, second, onward, last⟩
        exact ⟨second, ⟨first, taken, onward⟩, last⟩
      · rintro ⟨second, ⟨first, taken, onward⟩, last⟩
        exact ⟨first, taken, second, onward, last⟩

theorem leaves_of_take {layout : Layout} {reading next : Reading}
    (taken : layout.take reading cs = .ok (next, rest)) : layout.Leaves cs rest := by
  induction layout generalizing reading cs with
  | nil =>
      cases taken
      rfl
  | cons item items ih =>
      unfold take at taken
      split at taken
      case h_1 read between first => exact ⟨between, ⟨reading, read, first⟩, ih taken⟩
      case h_2 => contradiction

theorem leaves_of_read {layout : Layout} {t : Instant} (read : layout.read cs = .ok t) :
    layout.Leaves cs [] := by
  unfold Layout.read at read
  split at read
  case h_1 reading taken => exact leaves_of_take taken
  all_goals contradiction

theorem agree_nil : Agree [] [] := fun _ _ _ first second => first.symm.trans second

theorem Agree.cons (items : item.Agree counterpart) (onward : Agree a b) :
    Agree (item :: a) (counterpart :: b) := by
  rintro cs rest other ⟨between, first, last⟩ ⟨middle, second, final⟩
  cases items first second
  exact onward last final

theorem agree_self (layout : Layout) : layout.Agree layout := by
  induction layout with
  | nil => exact agree_nil
  | cons item items ih => exact ih.cons item.agree_self

theorem Agree.append (fronts : Agree front counterparts) (onward : Agree a b) :
    Agree (front ++ a) (counterparts ++ b) := by
  intro cs rest other first second
  rcases leaves_append_iff.mp first with ⟨between, taken, last⟩
  rcases leaves_append_iff.mp second with ⟨middle, again, final⟩
  cases fronts taken again
  exact onward last final

/-- Behind parts that agree it is enough that what is left cannot be followed twice. -/
theorem Apart.append (fronts : Agree front counterparts) (apart : Apart a b) :
    Apart (front ++ a) (counterparts ++ b) := by
  intro cs first second
  rcases leaves_append_iff.mp first with ⟨between, taken, last⟩
  rcases leaves_append_iff.mp second with ⟨middle, again, final⟩
  cases fronts taken again
  exact apart last final

theorem Apart.symm (apart : Apart a b) : Apart b a := fun _ first second => apart second first

/-- Where one layout ends, the other one goes on. -/
theorem Apart.of_longer (fronts : Agree front counterparts) (needs : ¬ a.Leaves [] []) :
    Apart (front ++ a) counterparts := by
  have ended : Apart a [] := by
    rintro cs taken rfl
    exact needs taken
  have apart := ended.append fronts
  rwa [List.append_nil] at apart

end Layouts

/-! ## The layouts of the grammar -/

section Grammar

variable {separator : Item}

/-- A clock time begins with a digit, behind white space. -/
theorem exists_digit_of_hour {cs rest : List Char} (hour : (Item.loose .hour 2).Leaves cs rest) :
    ∃ d run, isDigit d = true ∧ trimLeft cs = d :: run := by
  rcases leaves_loose (by decide) hour with ⟨n, number⟩
  rcases exists_digit_of_takeNumber Nat.one_pos number with ⟨d, run, digit, front⟩
  exact ⟨d, run ++ rest, digit, front⟩

/-- No clock time begins with a letter. -/
theorem not_leaves_hour {cs rest : List Char} {c : Char} (visible : isBlank c = false)
    (letter : isDigit c = false) : ¬ (Item.loose .hour 2).Leaves (c :: cs) rest := by
  intro hour
  rcases exists_digit_of_hour hour with ⟨d, run, digit, front⟩
  rw [trimLeft_cons visible] at front
  rw [← (List.cons.inj front).1, letter] at digit
  contradiction

theorem leaves_hour_trimLeft {cs rest : List Char} :
    (Item.loose .hour 2).Leaves (trimLeft cs) rest ↔ (Item.loose .hour 2).Leaves cs rest := by
  have again : trimLeft (trimLeft cs) = trimLeft cs := trimLeft_trimLeft cs
  simp only [Item.Leaves, Item.take, again]

/-- A letter and a blank before the hour leave what blanks leave, since no hour begins with a
letter. -/
theorem agree_blanks :
    Agree [.oneOf ['T', 't', ' '], .exact .hour 2] [.blanks, .loose .hour 2] := by
  rintro cs rest other ⟨between, first, last, hour, rfl⟩ ⟨middle, second, final, loose, rfl⟩
  rcases leaves_oneOf first with ⟨c, member, rfl⟩
  cases leaves_blanks second
  simp only [List.mem_cons, List.not_mem_nil, or_false] at member
  rcases member with rfl | rfl | rfl
  · exact absurd (leaves_hour_trimLeft.mp loose) (not_leaves_hour rfl rfl)
  · exact absurd (leaves_hour_trimLeft.mp loose) (not_leaves_hour rfl rfl)
  · have blank : trimLeft (' ' :: between) = trimLeft between := rfl
    rw [blank, leaves_hour_trimLeft] at loose
    exact agree_exact_loose .hour Nat.two_pos hour loose

theorem agree_letter :
    Agree [.oneOf ['T', 't', ' '], .exact .hour 2] [.literal 'T', .loose .hour 2] := by
  have letters : (Item.oneOf ['T', 't', ' ']).Agree (.literal 'T') := by
    intro cs rest other first second
    rcases leaves_oneOf first with ⟨c, _, rfl⟩
    exact (List.cons.inj (leaves_literal second)).2
  exact .cons letters (.cons (agree_exact_loose .hour Nat.two_pos) agree_nil)

theorem agree_datePart : Agree (datePart .exact) (datePart .loose) :=
  .cons (agree_exact_loose .year (by decide)) <| .cons (Item.agree_self _) <|
    .cons (agree_exact_loose .month (by decide)) <| .cons (Item.agree_self _) <|
      .cons (agree_exact_loose .day (by decide)) agree_nil

/-- The exact date and time up to the minutes leaves what the loose one does. -/
theorem agree_minutes
    (hour : Agree [.oneOf ['T', 't', ' '], .exact .hour 2] [separator, .loose .hour 2]) :
    Agree (datePart .exact ++ .oneOf ['T', 't', ' '] :: minutePart .exact) (minutes separator) := by
  have clocks : Agree [.literal ':', .exact .minute 2] [.literal ':', .loose .minute 2] :=
    .cons (Item.agree_self _) <| .cons (agree_exact_loose .minute (by decide)) agree_nil
  exact agree_datePart.append (hour.append clocks)

theorem agree_seconds
    (hour : Agree [.oneOf ['T', 't', ' '], .exact .hour 2] [separator, .loose .hour 2]) :
    Agree (datePart .exact ++ .oneOf ['T', 't', ' '] :: minutePart .exact ++ secondPart .exact)
      (seconds separator) :=
  (agree_minutes hour).append <|
    .cons (Item.agree_self _) <| .cons (agree_exact_loose .second (by decide)) <|
      .cons (Item.agree_self _) agree_nil

/-! ### What is missing where a text ends -/

theorem not_leaves_literal_nil (c : Char) (items : Layout) :
    ¬ Leaves (.literal c :: items) [] [] := by
  rintro ⟨between, first, _⟩
  exact List.cons_ne_nil c between (leaves_literal first).symm

theorem not_leaves_zone_nil : ¬ Leaves [.zone] [] [] := by
  rintro ⟨between, ⟨reading, next, taken⟩, _⟩
  contradiction

theorem not_leaves_blanks_nil (items : Layout) :
    ¬ Leaves (.blanks :: .loose .hour 2 :: items) [] [] := by
  rintro ⟨between, first, middle, hour, _⟩
  cases leaves_blanks first
  rcases exists_digit_of_hour hour with ⟨d, run, _, front⟩
  contradiction

theorem not_leaves_oneOf_nil (choices : List Char) (items : Layout) :
    ¬ Leaves (.oneOf choices :: items) [] [] := by
  rintro ⟨between, first, _⟩
  rcases leaves_oneOf first with ⟨c, _, equal⟩
  contradiction

/-! ### Every two layouts -/

theorem apart_letter_blanks (a b : Layout) :
    Apart (.literal 'T' :: a) (.blanks :: .loose .hour 2 :: b) := by
  rintro cs ⟨between, first, _⟩ ⟨middle, second, final, hour, _⟩
  cases leaves_literal first
  cases leaves_blanks second
  exact not_leaves_hour rfl rfl (leaves_hour_trimLeft.mp hour)

theorem apart_seconds_minutes (separator : Item) :
    Apart (seconds separator) (minutes separator) :=
  .of_longer (agree_self _) (not_leaves_literal_nil _ _)

theorem apart_rfc3339_seconds
    (hour : Agree [.oneOf ['T', 't', ' '], .exact .hour 2] [separator, .loose .hour 2]) :
    Apart rfc3339 (seconds separator) :=
  .of_longer (agree_seconds hour) not_leaves_zone_nil

theorem apart_rfc3339_minutes
    (hour : Agree [.oneOf ['T', 't', ' '], .exact .hour 2] [separator, .loose .hour 2]) :
    Apart rfc3339 (minutes separator) :=
  .of_longer (agree_minutes hour) (not_leaves_literal_nil ':' _)

theorem apart_rfc3339_date : Apart rfc3339 date :=
  .of_longer agree_datePart (not_leaves_oneOf_nil _ _)

/-- No text follows two of the layouts. -/
theorem pairwise_apart : (rfc3339 :: naive).Pairwise Apart := by
  have letter_blanks (a b : Layout) :
      Apart (date ++ .literal 'T' :: a) (date ++ .blanks :: .loose .hour 2 :: b) :=
    .append (agree_self date) (apart_letter_blanks a b)
  have dateless (a : Layout) (needs : ¬ a.Leaves [] []) : Apart (date ++ a) date :=
    .of_longer (agree_self date) needs
  have letter (a : Layout) := dateless _ (not_leaves_literal_nil 'T' a)
  have blanks (a : Layout) := dateless _ (not_leaves_blanks_nil a)
  simp only [naive, List.pairwise_cons, List.mem_cons, forall_eq_or_imp, List.not_mem_nil,
    false_imp_iff, implies_true, and_true, List.Pairwise.nil]
  exact ⟨⟨apart_rfc3339_seconds agree_letter, apart_rfc3339_seconds agree_blanks,
      apart_rfc3339_minutes agree_letter, apart_rfc3339_minutes agree_blanks, apart_rfc3339_date⟩,
    ⟨letter_blanks _ _, apart_seconds_minutes _, letter_blanks _ _, letter _⟩,
    ⟨(letter_blanks _ _).symm, apart_seconds_minutes _, blanks _⟩,
    ⟨letter_blanks _ _, letter _⟩, blanks _⟩

/-- The layout that a text follows is unique. -/
theorem eq_of_leaves {a b : Layout} (first : a ∈ rfc3339 :: naive) (second : b ∈ rfc3339 :: naive)
    {cs : List Char} (left : a.Leaves cs []) (left_too : b.Leaves cs []) : a = b := by
  by_contra other
  have symmetric : Std.Symm Apart := ⟨fun _ _ => Apart.symm⟩
  exact pairwise_apart.forall first second other left left_too

/-! ### A digit and a dash -/

theorem exists_digit_of_takeSigned {most : Nat} {n : Int} {cs rest : List Char}
    (number : takeSigned most cs = .ok (n, rest)) :
    ∃ sign d run, isDigit d = true ∧ cs = sign ++ d :: run ++ rest := by
  unfold takeSigned at number
  split at number
  case h_1 =>
    rcases exists_of_map number fun _ => rfl with ⟨m, digits⟩
    rcases exists_digit_of_takeNumber Nat.one_pos digits with ⟨d, run, digit, rfl⟩
    exact ⟨['-'], d, run, digit, rfl⟩
  case h_2 =>
    rcases exists_of_map number fun _ => rfl with ⟨m, digits⟩
    rcases exists_digit_of_takeNumber Nat.one_pos digits with ⟨d, run, digit, rfl⟩
    exact ⟨['+'], d, run, digit, rfl⟩
  case h_3 =>
    rcases exists_of_map number fun _ => rfl with ⟨m, digits⟩
    rcases exists_digit_of_takeNumber Nat.one_pos digits with ⟨d, run, digit, rfl⟩
    exact ⟨[], d, run, digit, rfl⟩

theorem exists_digit_of_year {year : Item} (years : year = .exact .year 4 ∨ year = .loose .year 4)
    {cs rest : List Char} (left : year.Leaves cs rest) :
    ∃ before d run, isDigit d = true ∧ cs = before ++ d :: run ++ rest := by
  rcases years with rfl | rfl
  · rcases leaves_exact left with ⟨n, number⟩
    rcases exists_digit_of_takeNumber (by decide) number with ⟨d, run, digit, rfl⟩
    exact ⟨[], d, run, digit, rfl⟩
  · rcases leaves_year left with ⟨n, number⟩
    rcases exists_digit_of_takeSigned number with ⟨sign, d, run, digit, visible⟩
    refine ⟨cs.takeWhile isBlank ++ sign, d, run, digit, ?_⟩
    calc
      cs = cs.takeWhile isBlank ++ trimLeft cs := List.takeWhile_append_dropWhile.symm
      _ = cs.takeWhile isBlank ++ sign ++ d :: run ++ rest := by
        simp only [visible, List.append_assoc, List.cons_append]

/-- The layouts begin with a year and a dash. -/
theorem exists_year {layout : Layout} (member : layout ∈ rfc3339 :: naive) :
    ∃ year items, (year = .exact .year 4 ∨ year = .loose .year 4) ∧
      layout = year :: .literal '-' :: items := by
  simp only [naive, List.mem_cons, List.not_mem_nil, or_false] at member
  rcases member with rfl | rfl | rfl | rfl | rfl | rfl
  · exact ⟨_, _, .inl rfl, rfl⟩
  all_goals exact ⟨_, _, .inr rfl, rfl⟩

/-- Every text of the layouts has a dash behind a digit of its year. -/
theorem exists_dash {layout : Layout} (member : layout ∈ rfc3339 :: naive) {cs rest : List Char}
    (left : layout.Leaves cs rest) :
    ∃ before d after, isDigit d = true ∧ '-' ∈ after ∧ cs = before ++ d :: after := by
  rcases exists_year member with ⟨year, items, years, rfl⟩
  rcases left with ⟨between, number, behind, dash, _⟩
  rcases exists_digit_of_year years number with ⟨before, d, run, digit, rfl⟩
  cases leaves_literal dash
  exact ⟨before, d, run ++ '-' :: behind, digit, by simp, by simp⟩

end Grammar

end Layout

end TopicReplay.Time
