import TopicReplay.Text.Integer

/-!
# Reading back decimal digits

What the writers of natural numbers produce is a run of ASCII digits, and reading
the run gives the number back. Zeros in front change the length of the run and
nothing else. A number with a sign is read from exactly the texts that denote it.

The main statements are `digitsFrom_padded`, `length_padded_of_lt` and
`signed?_eq_some_iff`.
-/

namespace TopicReplay.Text

theorem isDigit_iff {c : Char} : isDigit c = true ↔ '0' ≤ c ∧ c ≤ '9' := by
  simp [isDigit]

theorem isDigit_of_charIsDigit {c : Char} (digit : c.isDigit = true) : isDigit c = true := by
  rw [isDigit_iff]
  simpa [Char.isDigit, Char.le_def] using digit

/-- On a run of digits the reader computes the number that they stand for. -/
theorem digitsFrom_eq_some {cs : List Char} (digits : ∀ c ∈ cs, isDigit c = true) (total : Nat) :
    digitsFrom total cs = some (Nat.ofDigitChars 10 cs total) := by
  induction cs generalizing total with
  | nil => rfl
  | cons c rest ih =>
      have value : digitValue? c = some (c.toNat - '0'.toNat) :=
        if_pos (isDigit_iff.mp (digits c List.mem_cons_self))
      have others : ∀ c ∈ rest, isDigit c = true := fun c member =>
        digits c (List.mem_cons_of_mem _ member)
      rw [digitsFrom, value, Nat.ofDigitChars_cons]
      exact ih others _

theorem isDigit_of_mem_decimal {n : Nat} {c : Char} (member : c ∈ decimal n) :
    isDigit c = true :=
  isDigit_of_charIsDigit (Nat.isDigit_of_mem_toDigits (by decide) (by decide) member)

theorem isDigit_of_mem_padded {width n : Nat} {c : Char} (member : c ∈ padded width n) :
    isDigit c = true := by
  rcases List.mem_append.mp member with filler | written
  · rw [List.eq_of_mem_replicate filler]
    rfl
  · exact isDigit_of_mem_decimal written

/-- Reading the digits of a number gives it back, whatever they were filled to. -/
@[simp]
theorem digitsFrom_padded (width n : Nat) : digitsFrom 0 (padded width n) = some n := by
  rw [digitsFrom_eq_some fun c member => isDigit_of_mem_padded member, padded,
    Nat.ofDigitChars_append, Nat.ofDigitChars_replicate_zero, Nat.mul_zero, decimal,
    Nat.ofDigitChars_ten_toDigits]

@[simp]
theorem digitsFrom_decimal (n : Nat) : digitsFrom 0 (decimal n) = some n := by
  rw [digitsFrom_eq_some fun c member => isDigit_of_mem_decimal member, decimal,
    Nat.ofDigitChars_ten_toDigits]

theorem length_padded (width n : Nat) :
    (padded width n).length = max width (decimal n).length := by
  rw [padded, List.length_append, List.length_replicate]
  omega

/-- A number that fits the width has exactly so many digits. -/
theorem length_padded_of_lt {width n : Nat} (positive : 0 < width)
    (fits : n < Nat.pow 10 width) : (padded width n).length = width := by
  have short : (decimal n).length ≤ width :=
    (Nat.length_toDigits_le_iff (by decide) positive).mpr fits
  rw [length_padded]
  omega

theorem length_padded_two {n : Nat} (small : n < 100) : (padded 2 n).length = 2 :=
  length_padded_of_lt (by decide) (by rwa [show Nat.pow 10 2 = 100 from rfl])

/-- The digits of a small number are few, unless the width asks for more. -/
theorem length_padded_le {width n count : Nat} (wide : width ≤ count) (positive : 0 < count)
    (fits : n < Nat.pow 10 count) : (padded width n).length ≤ count := by
  have short : (decimal n).length ≤ count :=
    (Nat.length_toDigits_le_iff (by decide) positive).mpr fits
  rw [length_padded]
  omega

theorem length_padded_pos (width n : Nat) : 0 < (padded width n).length := by
  have some_digit : 0 < (decimal n).length := Nat.length_toDigits_pos
  rw [length_padded]
  omega

/-! ## Numbers with a sign -/

/-- A text denotes a number in decimal: perhaps a sign, and then at least one digit. -/
inductive Denotes : List Char → Int → Prop where
  | plain {ds : List Char} (digits : ∀ c ∈ ds, isDigit c = true) (some_digit : ds ≠ []) :
      Denotes ds (Nat.ofDigitChars 10 ds 0)
  | plus {ds : List Char} (digits : ∀ c ∈ ds, isDigit c = true) (some_digit : ds ≠ []) :
      Denotes ('+' :: ds) (Nat.ofDigitChars 10 ds 0)
  | minus {ds : List Char} (digits : ∀ c ∈ ds, isDigit c = true) (some_digit : ds ≠ []) :
      Denotes ('-' :: ds) (-(Nat.ofDigitChars 10 ds 0 : Int))

/-- The reader of digits refuses a text with any other character. -/
theorem isDigit_of_digitsFrom {cs : List Char} {total n : Nat}
    (read : digitsFrom total cs = some n) : ∀ c ∈ cs, isDigit c = true := by
  induction cs generalizing total with
  | nil => exact fun c member => absurd member List.not_mem_nil
  | cons c rest ih =>
      unfold digitsFrom at read
      split at read
      case h_1 value =>
        have digit : isDigit c = true := by
          unfold digitValue? at value
          split at value
          case isTrue inside => exact isDigit_iff.mpr inside
          case isFalse => contradiction
        exact List.forall_mem_cons.mpr ⟨digit, ih read⟩
      case h_2 => contradiction

theorem digits?_eq_some_iff {cs : List Char} {n : Nat} :
    digits? cs = some n ↔
      cs ≠ [] ∧ (∀ c ∈ cs, isDigit c = true) ∧ Nat.ofDigitChars 10 cs 0 = n := by
  cases cs with
  | nil => simp [digits?]
  | cons c rest =>
      change digitsFrom 0 (c :: rest) = some n ↔ _
      constructor
      · intro read
        have digits := isDigit_of_digitsFrom read
        rw [digitsFrom_eq_some digits] at read
        exact ⟨List.cons_ne_nil c rest, digits, Option.some.inj read⟩
      · rintro ⟨-, digits, value⟩
        rw [digitsFrom_eq_some digits, value]

theorem signed?_minus (cs : List Char) :
    signed? ('-' :: cs) = (digits? cs).map fun n : Nat => -(n : Int) := by
  cases read : digits? cs <;> simp [signed?, read]

/-- Signed numbers are read as what their texts denote, and nothing else is read. -/
theorem signed?_eq_some_iff {cs : List Char} {n : Int} : signed? cs = some n ↔ Denotes cs n := by
  constructor
  · intro read
    by_cases negative : ∃ ds, cs = '-' :: ds
    · rcases negative with ⟨ds, rfl⟩
      rw [signed?_minus] at read
      rcases Option.map_eq_some_iff.mp read with ⟨value, denoted, rfl⟩
      rcases digits?_eq_some_iff.mp denoted with ⟨some_digit, digits, rfl⟩
      exact .minus digits some_digit
    · rw [signed?, unsigned?.eq_def] at read
      · rcases Option.map_eq_some_iff.mp read with ⟨value, denoted, rfl⟩
        split at denoted
        · rcases digits?_eq_some_iff.mp denoted with ⟨some_digit, digits, rfl⟩
          exact .plus digits some_digit
        · rcases digits?_eq_some_iff.mp denoted with ⟨some_digit, digits, rfl⟩
          exact .plain digits some_digit
      · exact fun ds same => negative ⟨ds, same⟩
  · intro denotes
    cases denotes with
    | plain digits some_digit =>
        rw [signed?, unsigned?, digits?_eq_some_iff.mpr ⟨some_digit, digits, rfl⟩]
        · rfl
        · rintro ds rfl
          exact absurd (digits '+' List.mem_cons_self) (by decide)
        · rintro ds rfl
          exact absurd (digits '-' List.mem_cons_self) (by decide)
    | plus digits some_digit =>
        rw [signed?, unsigned?, digits?_eq_some_iff.mpr ⟨some_digit, digits, rfl⟩]
        · rfl
        · exact fun rest same => absurd (List.cons.inj same).1 (by decide)
    | minus digits some_digit =>
        rw [signed?_minus, digits?_eq_some_iff.mpr ⟨some_digit, digits, rfl⟩, Option.map_some]

theorem int64?_eq_some_iff {cs : List Char} {n : Int} :
    int64? cs = some n ↔ Denotes cs n ∧ minInt64 ≤ n ∧ n ≤ maxInt64 := by
  simp only [int64?, Option.filter_eq_some_iff, signed?_eq_some_iff, decide_eq_true_eq]

theorem int32?_eq_some_iff {cs : List Char} {n : Int} :
    int32? cs = some n ↔ Denotes cs n ∧ minInt32 ≤ n ∧ n ≤ maxInt32 := by
  simp only [int32?, Option.filter_eq_some_iff, signed?_eq_some_iff, decide_eq_true_eq]

/-- In the text of a number nothing but digits follows the first character. -/
theorem Denotes.isDigit_of_mem_tail {cs : List Char} {n : Int} (denotes : Denotes cs n) :
    ∀ c ∈ cs.tail, isDigit c = true := by
  cases denotes with
  | plain digits => exact fun c member => digits c (List.mem_of_mem_tail member)
  | plus digits => exact digits
  | minus digits => exact digits

theorem Denotes.exists_digit {cs : List Char} {n : Int} (denotes : Denotes cs n) :
    ∃ c ∈ cs, isDigit c = true := by
  cases denotes with
  | plain digits some_digit =>
      rcases List.exists_mem_of_ne_nil _ some_digit with ⟨c, member⟩
      exact ⟨c, member, digits c member⟩
  | plus digits some_digit | minus digits some_digit =>
      rcases List.exists_mem_of_ne_nil _ some_digit with ⟨c, member⟩
      exact ⟨c, List.mem_cons_of_mem _ member, digits c member⟩

theorem mem_integer {n : Int} {c : Char} (member : c ∈ integer n) :
    c = '-' ∨ isDigit c = true := by
  cases n with
  | ofNat m => exact .inr (isDigit_of_mem_decimal member)
  | negSucc m => exact (List.mem_cons.mp member).imp_right isDigit_of_mem_decimal

/-- The decimal text of an integer denotes it. -/
theorem denotes_integer (n : Int) : Denotes (integer n) n := by
  have digits : ∀ m : Nat, ∀ c ∈ decimal m, isDigit c = true := fun _ _ => isDigit_of_mem_decimal
  have some_digit : ∀ m : Nat, decimal m ≠ [] := fun m =>
    List.ne_nil_of_length_pos Nat.length_toDigits_pos
  have value : ∀ m : Nat, Nat.ofDigitChars 10 (decimal m) 0 = m := fun _ =>
    Nat.ofDigitChars_ten_toDigits
  cases n with
  | ofNat m =>
      have denotes := Denotes.plain (digits m) (some_digit m)
      rwa [value] at denotes
  | negSucc m =>
      have denotes := Denotes.minus (digits (m + 1)) (some_digit (m + 1))
      rwa [value] at denotes

end TopicReplay.Text
