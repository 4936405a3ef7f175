import TopicReplay.Proofs.Json.Reader

/-!
# Passing over JSON

A value that nobody asks for is read to its end as well: a number of any size, with a
fraction or an exponent, and lists and objects that nest as deep as their text allows. What
has been read has no fault in its form, and the text goes on behind it.

The main statements are `takeNumber_append` and `readsAs_of_wellFormed`.
-/

namespace TopicReplay.Json

open Text (integer isDigit)

namespace Reader

/-! ## Numbers -/

/-- Whether a text is the fraction of a number, which may be left out. -/
inductive IsFraction : List Char → Prop where
  | absent : IsFraction []
  | point {run : List Char} (digits : IsDigits run) : IsFraction ('.' :: run)

/-- Whether a text is the exponent of a number, which may be left out. -/
inductive IsPower : List Char → Prop where
  | absent : IsPower []
  | power {letter : Char} {sign run : List Char} (letter_eq : letter = 'e' ∨ letter = 'E')
      (sign_eq : sign = [] ∨ sign = ['+'] ∨ sign = ['-']) (digits : IsDigits run) :
      IsPower (letter :: (sign ++ run))

/-- Whether a text is a number as JSON has it. -/
inductive IsNumeral : List Char → Prop where
  | unsigned {whole fraction power : List Char} (isWhole : IsWhole whole)
      (isFraction : IsFraction fraction) (isPower : IsPower power) :
      IsNumeral (whole ++ (fraction ++ power))
  | negative {whole fraction power : List Char} (isWhole : IsWhole whole)
      (isFraction : IsFraction fraction) (isPower : IsPower power) :
      IsNumeral ('-' :: (whole ++ (fraction ++ power)))

theorem isNumeral_integer (n : Int) : IsNumeral (integer n) := by
  cases n with
  | ofNat m =>
      have numeral := IsNumeral.unsigned (isWhole_decimal m) .absent .absent
      rwa [List.append_nil, List.append_nil] at numeral
  | negSucc m =>
      have numeral := IsNumeral.negative (isWhole_decimal (m + 1)) .absent .absent
      rwa [List.append_nil, List.append_nil] at numeral

section Take

variable {whole fraction power rest : List Char}

theorem IsPower.takeWhile_isDigit (isPower : IsPower power) (stops : Stops rest) :
    (power ++ rest).takeWhile isDigit = [] := by
  cases isPower with
  | absent => exact stops.takeWhile_isDigit
  | power letter_eq _ _ => rcases letter_eq with rfl | rfl <;> rfl

theorem IsFraction.takeWhile_isDigit (isFraction : IsFraction fraction) (isPower : IsPower power)
    (stops : Stops rest) : (fraction ++ (power ++ rest)).takeWhile isDigit = [] := by
  cases isFraction with
  | absent => exact isPower.takeWhile_isDigit stops
  | point digits => rfl

theorem IsPower.takePoint_eq (isPower : IsPower power) (stops : Stops rest) :
    takePoint (power ++ rest) = .ok (none, power ++ rest) := by
  cases isPower with
  | absent => exact stops.takePoint_eq
  | power letter_eq _ _ => rcases letter_eq with rfl | rfl <;> rfl

theorem IsFraction.exists_takePoint (isFraction : IsFraction fraction) (isPower : IsPower power)
    (stops : Stops rest) :
    ∃ taken, takePoint (fraction ++ (power ++ rest)) = .ok (taken, power ++ rest) := by
  cases isFraction with
  | absent => exact ⟨_, isPower.takePoint_eq stops⟩
  | @point run digits =>
      refine ⟨some run, ?_⟩
      rw [List.cons_append, takePoint, takeDigits_append digits (isPower.takeWhile_isDigit stops)]
      rfl

theorem IsPower.exists_takePower (isPower : IsPower power) (stops : Stops rest) :
    ∃ taken, takePower (power ++ rest) = .ok (taken, rest) := by
  cases isPower with
  | absent => exact ⟨_, stops.takePower_eq⟩
  | @power letter sign run letter_eq sign_eq digits =>
      have read := takeDigits_append digits stops.takeWhile_isDigit
      rcases sign_eq with rfl | rfl | rfl
      · cases run with
        | nil => exact absurd rfl digits.ne_nil
        | cons d run =>
            have digit : isDigit d = true := digits.digits d List.mem_cons_self
            refine ⟨some (false, d :: run), ?_⟩
            rcases letter_eq with rfl | rfl
            all_goals
              simp only [List.nil_append, List.cons_append, takePower]
              split
              case h_1 same => cases same; cases digit
              case h_2 same => cases same; cases digit
              case h_3 =>
                rw [List.cons_append] at read
                rw [read]
                rfl
      · refine ⟨some (false, run), ?_⟩
        rcases letter_eq with rfl | rfl
        all_goals
          simp only [List.cons_append, List.nil_append, takePower, read]
          rfl
      · refine ⟨some (true, run), ?_⟩
        rcases letter_eq with rfl | rfl
        all_goals
          simp only [List.cons_append, List.nil_append, takePower, read]
          rfl

/-- A number is read to its end, whether or not it is too great. -/
theorem takeNumber_append {text : List Char} (numeral : IsNumeral text) (stops : Stops rest) :
    ∃ n, takeNumber (text ++ rest) = .ok (n, rest) := by
  cases numeral with
  | @unsigned whole fraction power isWhole isFraction isPower =>
      have taken := takeWhole_append isWhole (isFraction.takeWhile_isDigit isPower stops)
      rcases isFraction.exists_takePoint isPower stops with ⟨point, point_eq⟩
      rcases isPower.exists_takePower stops with ⟨exponent, power_eq⟩
      rcases isWhole.isDigits with ⟨ne_nil, digits⟩
      cases whole with
      | nil => exact absurd rfl ne_nil
      | cons d run =>
          have digit : isDigit d = true := digits d List.mem_cons_self
          have unsigned : ∀ after, (d :: run ++ (fraction ++ power)) ++ rest ≠ '-' :: after := by
            rintro after same
            cases (List.cons.inj same).1
            cases digit
          rw [List.append_assoc, List.append_assoc] at unsigned ⊢
          simp only [takeNumber, taken, point_eq, power_eq, bind, Except.bind]
          exact ⟨_, rfl⟩
  | negative isWhole isFraction isPower =>
      have taken := takeWhole_append isWhole (isFraction.takeWhile_isDigit isPower stops)
      rcases isFraction.exists_takePoint isPower stops with ⟨point, point_eq⟩
      rcases isPower.exists_takePower stops with ⟨exponent, power_eq⟩
      simp only [List.cons_append, List.append_assoc, takeNumber, taken, point_eq, power_eq, bind,
        Except.bind]
      exact ⟨_, rfl⟩

end Take

/-- The text of a number begins with its sign or with a digit. -/
theorem IsNumeral.exists_eq_cons {text : List Char} (numeral : IsNumeral text) :
    ∃ c cs, text = c :: cs ∧ (c = '-' ∨ isDigit c = true) := by
  cases numeral with
  | @unsigned whole _ _ isWhole =>
      rcases isWhole.isDigits with ⟨ne_nil, digits⟩
      cases whole with
      | nil => exact absurd rfl ne_nil
      | cons d run => exact ⟨d, _, rfl, .inr (digits d List.mem_cons_self)⟩
  | negative => exact ⟨'-', _, rfl, .inl rfl⟩

end Reader

/-! ## Values -/

/-- Whether the text of a value is JSON, which only a number might fail to be that is kept as
it is written. -/
inductive WellFormed : Json → Prop where
  | null : WellFormed .null
  | bool (b : Bool) : WellFormed (.bool b)
  | int (n : Int) : WellFormed (.int n)
  | real {text : String} (numeral : Reader.IsNumeral text.toList) : WellFormed (.real text)
  | string (s : String) : WellFormed (.string s)
  | array {items : List Json} (all : ∀ item ∈ items, WellFormed item) : WellFormed (.array items)
  | object {members : List (String × Json)} (all : ∀ member ∈ members, WellFormed member.2) :
      WellFormed (.object members)

namespace Reader

theorem IsNumeral.opens {text : List Char} (numeral : IsNumeral text) : Opens text := by
  rcases numeral.exists_eq_cons with ⟨c, cs, rfl, begins⟩
  refine ⟨c, cs, rfl, isSpace_of_opens begins, ?_⟩
  rintro rfl
  exact absurd begins (by decide)

theorem opens_of_wellFormed {v : Json} (wellFormed : WellFormed v) : Opens (compact v) := by
  cases wellFormed with
  | null => exact ⟨'n', "ull".toList, rfl, rfl, by decide⟩
  | bool b => exact @opens_compact 0 _ (.bool b)
  | int n =>
      rw [compact]
      exact (isNumeral_integer n).opens
  | real numeral =>
      rw [compact]
      exact numeral.opens
  | string s => exact @opens_compact 0 _ (.string s)
  | array all => exact ⟨'[', _, by rw [compact]; rfl, rfl, by decide⟩
  | object all => exact ⟨'\x7b', _, by rw [compact]; rfl, rfl, by decide⟩

/-- What is read of a number has no fault in its form, even if it is too great. -/
theorem readsAs_number {v : Json} (depth : Nat) (numeral : IsNumeral (compact v)) :
    ReadsAs depth v (·.formFault? = none) := by
  apply readsAs_of_succ numeral.opens
  intro fuel rest enough stops
  rcases takeNumber_append numeral stops with ⟨n, taken⟩
  rcases numeral.exists_eq_cons with ⟨c, cs, text, begins⟩
  rw [text, List.cons_append] at taken ⊢
  exact ⟨_, value_number begins taken fuel depth, rfl⟩

theorem length_le_compactItems {item : Json} {values : List Json} (member : item ∈ values) :
    (compact item).length ≤ (compactItems values).length := by
  induction values with
  | nil => cases member
  | cons first others ih =>
      cases others with
      | nil =>
          cases List.mem_singleton.mp member
          exact Nat.le_refl _
      | cons next others =>
          simp only [compactItems, List.length_append, List.length_cons]
          rcases List.mem_cons.mp member with rfl | later
          · omega
          · have shorter := ih later
            omega

theorem length_le_compactMembers {entry : String × Json} {entries : List (String × Json)}
    (member : entry ∈ entries) : (compact entry.2).length ≤ (compactMembers entries).length := by
  induction entries with
  | nil => cases member
  | cons first others ih =>
      rcases first with ⟨key, v⟩
      cases others with
      | nil =>
          cases List.mem_singleton.mp member
          simp only [compactMembers, List.length_append, List.length_cons]
          omega
      | cons next others =>
          simp only [compactMembers, List.length_append, List.length_cons]
          rcases List.mem_cons.mp member with rfl | later
          · dsimp only
            omega
          · have shorter := ih later
            omega

theorem itemsFault?_eq_none {values : List Json} {drafts : List Draft}
    (all : List.Forall₂ (fun _ draft => draft.formFault? = none) values drafts) :
    Draft.itemsFault? drafts = none := by
  induction all with
  | nil => rfl
  | cons first _ ih =>
      rw [Draft.itemsFault?, first, ih]
      rfl

theorem membersFault?_eq_none {entries : List (String × Json)}
    {drafts : List (Except Fault String × Draft)}
    (all : List.Forall₂ (MemberFits fun _ draft => draft.formFault? = none) entries drafts) :
    Draft.membersFault? drafts = none := by
  induction all with
  | nil => rfl
  | cons first _ ih =>
      rw [Draft.membersFault?, first.2, ih]
      rfl

/-- A value whose text is JSON is passed over, as long as it is not longer than the lists and
objects may nest. -/
theorem readsAs_of_wellFormed {v : Json} (wellFormed : WellFormed v) {depth : Nat}
    (enough : (compact v).length ≤ depth) : ReadsAs depth v (·.formFault? = none) := by
  induction wellFormed generalizing depth with
  | null => exact (readsAs_null depth).mono fun _ same => same ▸ rfl
  | bool b => exact (readsAs_bool depth b).mono fun _ same => same ▸ rfl
  | int n => exact readsAs_number depth (by rw [compact]; exact isNumeral_integer n)
  | real numeral => exact readsAs_number depth (by rw [compact]; exact numeral)
  | string s => exact (readsAs_string depth s).mono fun _ same => same ▸ rfl
  | @array values all ih =>
      simp only [compact, List.length_append, List.length_cons] at enough
      cases depth with
      | zero => contradiction
      | succ depth =>
          refine (readsAs_array (fun v member => opens_of_wellFormed (all v member))
            fun v member => ih v member ?_).mono ?_
          · have shorter := length_le_compactItems member
            omega
          · rintro _ ⟨drafts, fits, rfl⟩
            rw [Draft.formFault?, itemsFault?_eq_none fits]
            rfl
  | @object entries all ih =>
      simp only [compact, List.length_append, List.length_cons] at enough
      cases depth with
      | zero => contradiction
      | succ depth =>
          refine (readsAs_object fun entry member => ih entry member ?_).mono ?_
          · have shorter := length_le_compactMembers member
            omega
          · rintro _ ⟨drafts, fits, rfl⟩
            rw [Draft.formFault?, membersFault?_eq_none fits]
            rfl

end Reader

end TopicReplay.Json
