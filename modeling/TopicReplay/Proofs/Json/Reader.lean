import Mathlib.Data.List.Forall2
import TopicReplay.Json.Reader
import TopicReplay.Proofs.Text.Integer

/-!
# Reading back JSON

The text that a value is written as on one line is read back as this value, as long as
its numbers are integers of 64 bits and its lists and objects do not nest too deep. Each
part of the text is taken off the front, whatever follows it: a character of a string, a
number that no digit follows, a value with the comma or bracket behind it.

The main statements are `json_compact`, `compact_injective` and `printable_compact`.
-/

namespace TopicReplay.Json

open Text (decimal digitsFrom integer isDigit)

/-- Whether a value can be written and read back: its integers fit 64 bits, signed or
unsigned, and at most `depth` lists and objects stand around another one. -/
inductive Legible : Nat → Json → Prop where
  | null {depth : Nat} : Legible depth .null
  | bool {depth : Nat} (b : Bool) : Legible depth (.bool b)
  | int {depth : Nat} {n : Int} (least : Text.minInt64 ≤ n) (most : n ≤ Text.maxUInt64) :
      Legible depth (.int n)
  | string {depth : Nat} (s : String) : Legible depth (.string s)
  | array {depth : Nat} {items : List Json} (all : ∀ item ∈ items, Legible depth item) :
      Legible (depth + 1) (.array items)
  | object {depth : Nat} {members : List (String × Json)}
      (all : ∀ member ∈ members, Legible depth member.2) : Legible (depth + 1) (.object members)

namespace Reader

/-! ## Strings -/

theorem hex4?_control : ∀ n < 32, hex4? '0' '0' (hexDigit (n / 16)) (hexDigit n) = some n := by
  decide

/-- The escape of a control character is taken as a whole. -/
theorem takeUnit_control {n : Nat} (control : n < 32) (collected : Collected) (tail : List Char) :
    takeUnit collected ('0' :: '0' :: hexDigit (n / 16) :: hexDigit n :: tail) =
      .ok (collected.push (Char.ofNat n), tail) := by
  have digits :
      takeHex ('0' :: '0' :: hexDigit (n / 16) :: hexDigit n :: tail) = .ok (n, tail) := by
    simp only [takeHex, hex4?_control n control]
  have trailing : isTrailing n = false := by
    simp only [isTrailing, Bool.and_eq_false_iff, decide_eq_false_iff_not]
    omega
  have leading : isLeading n = false := by
    simp only [isLeading, Bool.and_eq_false_iff, decide_eq_false_iff_not]
    omega
  unfold takeUnit
  rw [digits]
  simp only [bind, Except.bind, trailing, leading]
  rfl

/-- What stands for a character within a string is read as this character. -/
theorem takeString_escapeChar (fuel : Nat) (collected : Collected) (c : Char) (tail : List Char) :
    takeString (fuel + 1) collected (escapeChar c ++ tail) =
      takeString fuel (collected.push c) tail := by
  unfold escapeChar
  split
  case isTrue same => rw [same]; rfl
  split
  case isTrue same => rw [same]; rfl
  split
  case isTrue same => rw [same]; rfl
  split
  case isTrue same => rw [same]; rfl
  split
  case isTrue same => rw [same]; rfl
  split
  case isTrue same => rw [same]; rfl
  split
  case isTrue same => rw [same]; rfl
  split
  case isTrue control =>
    have unit := takeUnit_control control collected tail
    rw [Char.ofNat_toNat] at unit
    simp only [List.cons_append, List.nil_append, takeString, unit]
    rfl
  case isFalse quote backslash _ _ _ _ _ visible =>
    simp only [List.cons_append, List.nil_append, takeString]
    rw [if_neg quote, if_neg backslash, if_neg visible]

/-- The characters of a string are read up to its closing quote. -/
theorem takeString_escaped (cs : List Char) {fuel : Nat} (enough : cs.length < fuel)
    (collected : Collected) (rest : List Char) :
    takeString fuel collected (cs.flatMap escapeChar ++ '"' :: rest) =
      .ok ({ collected with chars := cs.reverse ++ collected.chars }.result, rest) := by
  induction cs generalizing fuel collected with
  | nil =>
      cases fuel with
      | zero => contradiction
      | succ fuel => rfl
  | cons c cs ih =>
      cases fuel with
      | zero => contradiction
      | succ fuel =>
          rw [List.flatMap_cons, List.append_assoc, takeString_escapeChar,
            ih (Nat.lt_of_succ_lt_succ enough), List.reverse_cons, List.append_assoc]
          rfl

theorem length_le_flatMap_escapeChar (cs : List Char) :
    cs.length ≤ (cs.flatMap escapeChar).length := by
  have some_char : ∀ c, 1 ≤ (escapeChar c).length := by
    intro c
    unfold escapeChar
    repeat' split
    all_goals simp
  induction cs with
  | nil => exact Nat.le_refl 0
  | cons c cs ih =>
      rw [List.flatMap_cons, List.length_append, List.length_cons, Nat.add_comm]
      exact Nat.add_le_add (some_char c) ih

/-- A string is read from behind its opening quote. -/
theorem takeString_quote (s : String) (rest : List Char) :
    takeString ((s.toList.flatMap escapeChar ++ '"' :: rest).length + 1) {}
        (s.toList.flatMap escapeChar ++ '"' :: rest) =
      .ok (.ok s, rest) := by
  have short := length_le_flatMap_escapeChar s.toList
  rw [takeString_escaped]
  · simp [Collected.result]
  · rw [List.length_append]
    omega

/-! ## Numbers -/

/-- Whether a value may end before this text: a comma or a closing bracket follows, or
nothing. -/
def Stops (rest : List Char) : Prop := ∀ c ∈ rest.head?, c = ',' ∨ c = ']' ∨ c = '\x7d'

theorem Stops.takeWhile_isDigit {rest : List Char} (stops : Stops rest) :
    rest.takeWhile isDigit = [] := by
  cases rest with
  | nil => rfl
  | cons c rest =>
      rcases stops c rfl with rfl | rfl | rfl <;> rfl

theorem Stops.takePoint_eq {rest : List Char} (stops : Stops rest) :
    takePoint rest = .ok (none, rest) := by
  cases rest with
  | nil => rfl
  | cons c rest =>
      rcases stops c rfl with rfl | rfl | rfl <;> rfl

theorem Stops.takePower_eq {rest : List Char} (stops : Stops rest) :
    takePower rest = .ok (none, rest) := by
  cases rest with
  | nil => rfl
  | cons c rest =>
      rcases stops c rfl with rfl | rfl | rfl <;> rfl

theorem head?_decimal_append (n : Nat) (rest : List Char) :
    (decimal n ++ rest).head? = (decimal n).head? := by
  cases digits : decimal n with
  | nil => exact absurd digits Nat.toDigits_ne_nil
  | cons c cs => rfl

/-- The digits of a number other than zero do not begin with a zero. -/
theorem head?_decimal_ne {n : Nat} (positive : 0 < n) : (decimal n).head? ≠ some '0' := by
  have small : ∀ d < 10, 0 < d → Nat.digitChar d ≠ '0' := by decide
  induction n using Nat.strongRecOn with
  | ind n ih =>
      by_cases short : n < 10
      · rw [decimal, Nat.toDigits_of_lt_base short]
        exact fun same => small n short positive (Option.some.inj same)
      · rw [decimal, Nat.toDigits_of_base_le (by decide) (Nat.not_lt.mp short)]
        rw [← decimal, head?_decimal_append]
        apply ih
        · omega
        · omega

/-- Whether a text consists of digits. -/
structure IsDigits (run : List Char) : Prop where
  ne_nil : run ≠ []
  digits : ∀ c ∈ run, isDigit c = true

theorem isDigits_of_all {run : List Char} (ne_nil : run ≠ []) (all : run.all isDigit = true) :
    IsDigits run :=
  ⟨ne_nil, List.all_eq_true.mp all⟩

theorem isDigits_decimal (n : Nat) : IsDigits (decimal n) :=
  ⟨Nat.toDigits_ne_nil, fun _ => Text.isDigit_of_mem_decimal⟩

/-- Whether a text is a whole number, without leading zeros. -/
inductive IsWhole : List Char → Prop where
  | zero : IsWhole ['0']
  | run {run : List Char} (digits : IsDigits run) (first : run.head? ≠ some '0') : IsWhole run

theorem isWhole_decimal (n : Nat) : IsWhole (decimal n) := by
  rcases Nat.eq_zero_or_pos n with rfl | positive
  · exact .zero
  · exact .run (isDigits_decimal n) (head?_decimal_ne positive)

theorem IsWhole.isDigits {whole : List Char} (isWhole : IsWhole whole) : IsDigits whole := by
  cases isWhole with
  | zero => exact isDigits_of_all (List.cons_ne_nil _ _) rfl
  | run digits first => exact digits

theorem takeDigits_append {run rest : List Char} (isDigits : IsDigits run)
    (ends : rest.takeWhile isDigit = []) : takeDigits (run ++ rest) = .ok (run, rest) := by
  have taken : (run ++ rest).takeWhile isDigit = run := by
    rw [List.takeWhile_append_of_pos isDigits.digits, ends, List.append_nil]
  unfold takeDigits
  rw [taken]
  split
  case h_1 => exact absurd rfl isDigits.ne_nil
  case h_2 => rw [List.drop_left]

theorem takeWhole_append {whole rest : List Char} (isWhole : IsWhole whole)
    (ends : rest.takeWhile isDigit = []) : takeWhole (whole ++ rest) = .ok (whole, rest) := by
  unfold takeWhole
  split
  case h_1 c after same =>
    cases isWhole with
    | zero =>
        have follows : rest = c :: after := (List.cons.inj same).2
        cases digit : isDigit c with
        | true =>
            rw [follows, List.takeWhile_cons_of_pos digit] at ends
            cases ends
        | false =>
            rw [follows]
            rfl
    | run digits first =>
        cases whole with
        | nil => exact absurd rfl digits.ne_nil
        | cons d run => exact absurd (congrArg some (List.cons.inj same).1) first
  case h_2 => exact takeDigits_append isWhole.isDigits ends

theorem value_unsigned {m : Nat} (most : m ≤ Text.maxUInt64) (text : List Char) (left : Nat) :
    Numeral.value ⟨false, decimal m, none, none⟩ text left = .ok (.int m) := by
  simp [Numeral.value, Text.digitsFrom_decimal, most]

theorem value_negative {m : Nat} (positive : 0 < m) (least : Text.minInt64 ≤ -(m : Int))
    (text : List Char) (left : Nat) :
    Numeral.value ⟨true, decimal m, none, none⟩ text left = .ok (.int (-(m : Int))) := by
  have fits : m ≠ 0 ∧ Text.minInt64 ≤ -(m : Int) := ⟨Nat.ne_of_gt positive, least⟩
  simp [Numeral.value, Text.digitsFrom_decimal, fits]

/-- An integer that fits 64 bits is read as it was written. -/
theorem takeNumber_integer {n : Int} {rest : List Char} (least : Text.minInt64 ≤ n)
    (most : n ≤ Text.maxUInt64) (stops : Stops rest) :
    takeNumber (integer n ++ rest) = .ok (.ok (.int n), rest) := by
  cases n with
  | ofNat m =>
      have unsigned : ∀ after, decimal m ++ rest ≠ '-' :: after := by
        intro after same
        have first := congrArg List.head? same
        rw [head?_decimal_append] at first
        exact absurd (Text.isDigit_of_mem_decimal (List.mem_of_mem_head? first)) (by decide)
      have taken := takeWhole_append (isWhole_decimal m) stops.takeWhile_isDigit
      simp only [integer, takeNumber, taken, stops.takePoint_eq, stops.takePower_eq, bind,
        Except.bind, value_unsigned (Int.ofNat_le.mp most)]
      rfl
  | negSucc m =>
      have taken := takeWhole_append (isWhole_decimal (m + 1)) stops.takeWhile_isDigit
      simp only [integer, List.cons_append, takeNumber, taken, stops.takePoint_eq,
        stops.takePower_eq, bind, Except.bind, value_negative (Nat.succ_pos m) least]
      rfl

/-- The text of an integer begins with its sign or with a digit. -/
theorem exists_integer_eq_cons (n : Int) :
    ∃ c cs, integer n = c :: cs ∧ (c = '-' ∨ isDigit c = true) := by
  cases text : integer n with
  | nil => cases n <;> exact absurd text (by simp [integer, decimal, Nat.toDigits_ne_nil])
  | cons c cs => exact ⟨c, cs, rfl, Text.mem_integer (text ▸ List.mem_cons_self)⟩

theorem isSpace_of_opens {c : Char} (opens : c = '-' ∨ isDigit c = true) : isSpace c = false := by
  cases space : isSpace c with
  | false => rfl
  | true =>
      simp only [isSpace, Bool.or_eq_true, beq_iff_eq] at space
      rcases space with ((rfl | rfl) | rfl) | rfl <;> exact absurd opens (by decide)

/-! ## Values -/

/-- Whether a value is read from its text as a draft that fits, with so many others allowed
around another one. -/
def ReadsAs (depth : Nat) (v : Json) (fit : Draft → Prop) : Prop :=
  ∀ fuel rest, 2 * (compact v).length ≤ fuel → Stops rest →
    ∃ draft, value fuel depth (compact v ++ rest) = (draft, some rest) ∧ fit draft

/-- Whether a member has been read with its name, as a draft that fits. -/
def MemberFits (fit : String × Json → Draft → Prop) (entry : String × Json)
    (member : Except Fault String × Draft) : Prop :=
  member.1 = .ok entry.1 ∧ fit entry member.2

theorem skipSpace_cons {c : Char} (visible : isSpace c = false) (cs : List Char) :
    skipSpace (c :: cs) = c :: cs :=
  List.dropWhile_cons_of_neg (by simp [visible])

theorem value_number {c : Char} (opens : c = '-' ∨ isDigit c = true) {cs rest : List Char}
    {n : Except Fault Number} (taken : takeNumber (c :: cs) = .ok (n, rest)) (fuel depth : Nat) :
    value (fuel + 1) depth (c :: cs) = (.number n, some rest) := by
  have number : (c = '-' || isDigit c) = true := by simpa using opens
  rw [value, skipSpace_cons (isSpace_of_opens opens)]
  split
  case h_1 same => cases same
  case h_8 same =>
    cases same
    rw [if_pos number, taken]
  -- Every other case begins with a character that no number begins with.
  all_goals
    rename_i same
    cases same
    exact absurd opens (by decide)

/-- Whether a text begins with a character that is no white space and ends no list. -/
def Opens (text : List Char) : Prop := ∃ c cs, text = c :: cs ∧ isSpace c = false ∧ c ≠ ']'

theorem Opens.append {text : List Char} (opens : Opens text) (rest : List Char) :
    Opens (text ++ rest) := by
  rcases opens with ⟨c, cs, rfl, visible, no_end⟩
  exact ⟨c, cs ++ rest, rfl, visible, no_end⟩

theorem opens_compact {depth : Nat} {v : Json} (legible : Legible depth v) : Opens (compact v) := by
  cases legible with
  | null => exact ⟨'n', "ull".toList, rfl, rfl, by decide⟩
  | bool b =>
      cases b with
      | false => exact ⟨'f', "alse".toList, rfl, rfl, by decide⟩
      | true => exact ⟨'t', "rue".toList, rfl, rfl, by decide⟩
  | @int _ n least most =>
      rcases exists_integer_eq_cons n with ⟨c, cs, text, opens⟩
      refine ⟨c, cs, by rw [compact, text], isSpace_of_opens opens, ?_⟩
      rintro rfl
      exact absurd opens (by decide)
  | string s => exact ⟨'"', _, rfl, rfl, by decide⟩
  | array all => exact ⟨'[', _, by rw [compact]; rfl, rfl, by decide⟩
  | object all => exact ⟨'\x7b', _, by rw [compact]; rfl, rfl, by decide⟩

theorem opens_compactItems {item : Json} (opens : Opens (compact item)) (others : List Json) :
    Opens (compactItems (item :: others)) := by
  cases others with
  | nil => exact opens
  | cons next others => exact opens.append _

/-- Behind its bracket a list is read item by item, unless it ends at once. -/
theorem Opens.value_array {text : List Char} (opens : Opens text) (fuel depth : Nat) :
    value (fuel + 1) (depth + 1) ('[' :: text) = items fuel depth [] text := by
  rcases opens with ⟨c, cs, rfl, visible, no_end⟩
  rw [value, skipSpace_cons rfl]
  simp only [skipSpace_cons visible]
  split
  case h_1 same => exact absurd (List.cons.inj same).1 no_end
  case h_2 same => cases same
  case h_3 => rfl

/-- Behind a comma a list goes on with its next item. -/
theorem Opens.items_cons {text : List Char} (opens : Opens text) {fuel depth : Nat}
    {cs : List Char} {item : Draft} (taken : value fuel depth cs = (item, some (',' :: text)))
    (found : List Draft) :
    items (fuel + 1) depth found cs = items fuel depth (item :: found) text := by
  rcases opens with ⟨c, cs, rfl, visible, no_end⟩
  rw [items, taken]
  simp only [skipSpace_cons (show isSpace ',' = false from rfl), skipSpace_cons visible]
  split
  case h_1 same => exact absurd (List.cons.inj same).1 no_end
  case h_2 => rfl

theorem items_singleton {fuel depth : Nat} {cs rest : List Char} {item : Draft}
    (taken : value fuel depth cs = (item, some (']' :: rest))) (found : List Draft) :
    items (fuel + 1) depth found cs = (.array (found.reverse ++ [item]) none, some rest) := by
  rw [items, taken]
  simp only [skipSpace_cons (show isSpace ']' = false from rfl), List.reverse_cons]

/-- Items are read one after the other, up to the bracket behind the last one. -/
theorem items_compactItems {depth : Nat} {fit : Json → Draft → Prop} {item : Json}
    {others : List Json} (begin : ∀ v ∈ item :: others, Opens (compact v))
    (reads : ∀ v ∈ item :: others, ReadsAs depth v (fit v)) {fuel : Nat}
    (enough : 2 * (compactItems (item :: others)).length < fuel) (found : List Draft)
    (rest : List Char) :
    ∃ drafts, List.Forall₂ fit (item :: others) drafts ∧
      items fuel depth found (compactItems (item :: others) ++ ']' :: rest) =
        (.array (found.reverse ++ drafts) none, some rest) := by
  induction others generalizing item fuel found with
  | nil =>
      cases fuel with
      | zero => contradiction
      | succ fuel =>
          rcases reads item List.mem_cons_self fuel (']' :: rest) (Nat.le_of_lt_succ enough)
            (by rintro _ ⟨⟩; simp) with ⟨draft, taken, fits⟩
          refine ⟨[draft], .cons fits .nil, ?_⟩
          rw [compactItems, items_singleton taken]
  | cons next others ih =>
      cases fuel with
      | zero => contradiction
      | succ fuel =>
          simp only [compactItems, List.length_append, List.length_cons] at enough
          have opens : Opens (compactItems (next :: others) ++ ']' :: rest) :=
            (opens_compactItems (begin next (by simp)) others).append _
          rcases reads item List.mem_cons_self fuel
            (',' :: (compactItems (next :: others) ++ ']' :: rest)) (by omega)
            (by rintro _ ⟨⟩; simp) with ⟨draft, taken, fits⟩
          rcases @ih next (fun v member => begin v (List.mem_cons_of_mem _ member))
            (fun v member => reads v (List.mem_cons_of_mem _ member)) fuel (by omega)
            (draft :: found) with ⟨drafts, others_fit, later⟩
          refine ⟨draft :: drafts, .cons fits others_fit, ?_⟩
          simp only [compactItems, List.append_assoc, List.cons_append]
          rw [opens.items_cons taken, later, List.reverse_cons, List.append_assoc]
          rfl

theorem quote_append (s : String) (text : List Char) :
    quote s ++ text = '"' :: (s.toList.flatMap escapeChar ++ '"' :: text) := by
  simp only [quote, List.cons_append, List.append_assoc, List.nil_append]

/-- Behind its brace an object is read member by member, from the quote of the first key. -/
theorem value_object (fuel depth : Nat) (key : String) (text : List Char) :
    value (fuel + 1) (depth + 1) ('\x7b' :: (quote key ++ text)) =
      members fuel depth [] (quote key ++ text) := by
  rw [quote_append, value, skipSpace_cons rfl]
  simp only [skipSpace_cons (show isSpace '"' = false from rfl)]
  rfl

section Members

variable {fuel depth : Nat} {key : String} {text rest : List Char} {item : Draft}

theorem members_singleton (taken : value fuel depth text = (item, some ('\x7d' :: rest)))
    (found : List (Except Fault String × Draft)) :
    members (fuel + 1) depth found (quote key ++ ':' :: text) =
      (.object (found.reverse ++ [(.ok key, item)]) none, some rest) := by
  rw [quote_append, members, takeString_quote]
  simp only [skipSpace_cons (show isSpace ':' = false from rfl), taken,
    skipSpace_cons (show isSpace '\x7d' = false from rfl), List.reverse_cons]

/-- Behind a comma an object goes on with its next member. -/
theorem members_cons {next : String}
    (taken : value fuel depth text = (item, some (',' :: (quote next ++ rest))))
    (found : List (Except Fault String × Draft)) :
    members (fuel + 1) depth found (quote key ++ ':' :: text) =
      members fuel depth ((.ok key, item) :: found) (quote next ++ rest) := by
  rw [quote_append] at taken
  rw [quote_append, quote_append, members, takeString_quote]
  simp only [skipSpace_cons (show isSpace ':' = false from rfl), taken,
    skipSpace_cons (show isSpace ',' = false from rfl),
    skipSpace_cons (show isSpace '"' = false from rfl)]
  rfl

end Members

theorem exists_compactMembers_eq (key : String) (v : Json) (others : List (String × Json)) :
    ∃ text, compactMembers ((key, v) :: others) = quote key ++ text := by
  cases others with
  | nil => exact ⟨_, rfl⟩
  | cons next others =>
      simp only [compactMembers, List.append_assoc]
      exact ⟨_, rfl⟩

/-- Members are read one after the other, up to the brace behind the last one. -/
theorem members_compactMembers {depth : Nat} {fit : String × Json → Draft → Prop} {key : String}
    {v : Json} {others : List (String × Json)}
    (reads : ∀ member ∈ (key, v) :: others, ReadsAs depth member.2 (fit member)) {fuel : Nat}
    (enough : 2 * (compactMembers ((key, v) :: others)).length < fuel)
    (found : List (Except Fault String × Draft)) (rest : List Char) :
    ∃ drafts, List.Forall₂ (MemberFits fit) ((key, v) :: others) drafts ∧
      members fuel depth found (compactMembers ((key, v) :: others) ++ '\x7d' :: rest) =
        (.object (found.reverse ++ drafts) none, some rest) := by
  induction others generalizing key v fuel found with
  | nil =>
      cases fuel with
      | zero => contradiction
      | succ fuel =>
          simp only [compactMembers, List.length_append, List.length_cons] at enough
          rcases reads (key, v) List.mem_cons_self fuel ('\x7d' :: rest)
            (by dsimp only; omega) (by rintro _ ⟨⟩; simp) with ⟨draft, taken, fits⟩
          refine ⟨[(.ok key, draft)], .cons ⟨rfl, fits⟩ .nil, ?_⟩
          simp only [compactMembers, List.append_assoc, List.cons_append]
          rw [members_singleton taken]
  | cons next others ih =>
      rcases next with ⟨next, w⟩
      cases fuel with
      | zero => contradiction
      | succ fuel =>
          simp only [compactMembers, List.length_append, List.length_cons] at enough
          rcases exists_compactMembers_eq next w others with ⟨text, begins⟩
          rcases reads (key, v) List.mem_cons_self fuel
            (',' :: (quote next ++ (text ++ '\x7d' :: rest))) (by dsimp only; omega)
            (by rintro _ ⟨⟩; simp) with ⟨draft, taken, fits⟩
          rcases @ih next w (fun member inside => reads member (List.mem_cons_of_mem _ inside)) fuel
            (by omega) ((.ok key, draft) :: found) with ⟨drafts, others_fit, later⟩
          refine ⟨(.ok key, draft) :: drafts, .cons ⟨rfl, fits⟩ others_fit, ?_⟩
          simp only [compactMembers, List.append_assoc, List.cons_append]
          rw [begins, List.append_assoc] at later ⊢
          rw [members_cons taken, later, List.reverse_cons, List.append_assoc]
          rfl

theorem ReadsAs.mono {depth : Nat} {v : Json} {fit other : Draft → Prop}
    (reads : ReadsAs depth v fit) (weaker : ∀ draft, fit draft → other draft) :
    ReadsAs depth v other := by
  intro fuel rest enough stops
  rcases reads fuel rest enough stops with ⟨draft, read, fits⟩
  exact ⟨draft, read, weaker draft fits⟩

/-- As no text is empty, there is always fuel to begin with. -/
theorem readsAs_of_succ {depth : Nat} {v : Json} {fit : Draft → Prop} (opens : Opens (compact v))
    (reads : ∀ fuel rest, 2 * (compact v).length ≤ fuel + 1 → Stops rest →
      ∃ draft, value (fuel + 1) depth (compact v ++ rest) = (draft, some rest) ∧ fit draft) :
    ReadsAs depth v fit := by
  intro fuel rest enough stops
  cases fuel with
  | zero =>
      rcases opens with ⟨c, cs, text, -⟩
      simp [text] at enough
  | succ fuel => exact reads fuel rest enough stops

theorem readsAs_null (depth : Nat) : ReadsAs depth .null (· = .null) :=
  readsAs_of_succ ⟨'n', "ull".toList, rfl, rfl, by decide⟩ fun _ _ _ _ => ⟨_, rfl, rfl⟩

theorem readsAs_bool (depth : Nat) (b : Bool) : ReadsAs depth (.bool b) (· = .bool b) := by
  apply readsAs_of_succ (@opens_compact depth _ (.bool b))
  intro fuel rest enough stops
  cases b <;> exact ⟨_, rfl, rfl⟩

theorem readsAs_int (depth : Nat) {n : Int} (least : Text.minInt64 ≤ n)
    (most : n ≤ Text.maxUInt64) : ReadsAs depth (.int n) (· = .number (.ok (.int n))) := by
  apply readsAs_of_succ (@opens_compact depth _ (.int least most))
  intro fuel rest enough stops
  have taken := takeNumber_integer least most stops
  rcases exists_integer_eq_cons n with ⟨c, cs, text, opens⟩
  rw [compact]
  rw [text, List.cons_append] at taken ⊢
  exact ⟨_, value_number opens taken fuel depth, rfl⟩

theorem readsAs_string (depth : Nat) (s : String) :
    ReadsAs depth (.string s) (· = .string (.ok s)) := by
  apply readsAs_of_succ (@opens_compact depth _ (.string s))
  intro fuel rest enough stops
  rw [compact, quote_append, value, skipSpace_cons rfl]
  simp only [takeString_quote]
  exact ⟨_, rfl, rfl⟩

/-- A list is read if its items are. -/
theorem readsAs_array {depth : Nat} {fit : Json → Draft → Prop} {values : List Json}
    (begin : ∀ v ∈ values, Opens (compact v))
    (reads : ∀ v ∈ values, ReadsAs depth v (fit v)) :
    ReadsAs (depth + 1) (.array values)
      fun draft => ∃ drafts, List.Forall₂ fit values drafts ∧ draft = .array drafts none := by
  apply readsAs_of_succ ⟨'[', _, by rw [compact]; rfl, rfl, by decide⟩
  intro fuel rest enough stops
  cases values with
  | nil => exact ⟨_, rfl, [], .nil, rfl⟩
  | cons item others =>
      simp only [compact, List.length_append, List.length_cons] at enough
      have opens : Opens (compactItems (item :: others) ++ ']' :: rest) :=
        (opens_compactItems (begin item List.mem_cons_self) others).append _
      rcases @items_compactItems _ _ _ _ begin reads fuel (by omega) [] rest with
        ⟨drafts, all_fit, read⟩
      refine ⟨_, ?_, drafts, all_fit, rfl⟩
      simp only [compact, List.cons_append, List.append_assoc, List.nil_append]
      rw [opens.value_array, read]
      rfl

/-- An object is read if the values of its members are. -/
theorem readsAs_object {depth : Nat} {fit : String × Json → Draft → Prop}
    {entries : List (String × Json)}
    (reads : ∀ entry ∈ entries, ReadsAs depth entry.2 (fit entry)) :
    ReadsAs (depth + 1) (.object entries) fun draft =>
      ∃ drafts, List.Forall₂ (MemberFits fit) entries drafts ∧ draft = .object drafts none := by
  apply readsAs_of_succ ⟨'\x7b', _, by rw [compact]; rfl, rfl, by decide⟩
  intro fuel rest enough stops
  cases entries with
  | nil => exact ⟨_, rfl, [], .nil, rfl⟩
  | cons entry others =>
      rcases entry with ⟨key, v⟩
      simp only [compact, List.length_append, List.length_cons] at enough
      rcases @members_compactMembers _ _ _ _ _ reads fuel (by omega) [] rest with
        ⟨drafts, all_fit, read⟩
      rcases exists_compactMembers_eq key v others with ⟨text, begins⟩
      rw [begins, List.append_assoc] at read
      refine ⟨_, ?_, drafts, all_fit, rfl⟩
      simp only [compact, List.cons_append, List.append_assoc, List.nil_append]
      rw [begins, List.append_assoc, value_object, read]
      rfl

/-! ## Values of 64 bits -/

/-- Whether a value is read back from its text, with so many others allowed around
another one. -/
def ReadsBack (depth : Nat) (v : Json) : Prop := ReadsAs depth v (· = Draft.ofJson v)

theorem eq_ofItems {values : List Json} {drafts : List Draft}
    (same : List.Forall₂ (fun v draft => draft = Draft.ofJson v) values drafts) :
    drafts = Draft.ofItems values := by
  induction same with
  | nil => rfl
  | cons first _ ih => rw [first, ih, Draft.ofItems]

theorem eq_ofMembers {entries : List (String × Json)} {drafts : List (Except Fault String × Draft)}
    (same : List.Forall₂ (MemberFits fun entry draft => draft = Draft.ofJson entry.2) entries
      drafts) : drafts = Draft.ofMembers entries := by
  induction same with
  | nil => rfl
  | @cons entry member _ _ first _ ih =>
      rcases member with ⟨name, draft⟩
      rcases first with ⟨rfl, rfl⟩
      rw [ih, Draft.ofMembers]

/-- Every legible value is read back from its text. -/
theorem readsBack_of_legible {depth : Nat} {v : Json} (legible : Legible depth v) :
    ReadsBack depth v := by
  induction legible with
  | null => exact readsAs_null _
  | bool b => exact readsAs_bool _ b
  | int least most => exact readsAs_int _ least most
  | string s => exact readsAs_string _ s
  | array legible back =>
      refine (readsAs_array (fun v member => opens_compact (legible v member)) back).mono ?_
      rintro _ ⟨drafts, same, rfl⟩
      rw [eq_ofItems same, Draft.ofJson]
  | object legible back =>
      refine (readsAs_object back).mono ?_
      rintro _ ⟨drafts, same, rfl⟩
      rw [eq_ofMembers same, Draft.ofJson]

/-! ## Texts -/

/-- A text that is one value has nothing behind it. -/
theorem exists_document_compact {depth : Nat} {v : Json} {fit : Draft → Prop}
    (reads : ReadsAs depth v fit) :
    ∃ draft, document depth (compact v) = (draft, none) ∧ fit draft := by
  rcases reads (2 * (compact v).length + 2) [] (Nat.le_add_right _ _) (by rintro _ ⟨⟩) with
    ⟨draft, read, fits⟩
  refine ⟨draft, ?_, fits⟩
  rw [List.append_nil] at read
  rw [document, read]
  rfl

theorem document_compact {depth : Nat} {v : Json} (legible : Legible depth v) :
    document depth (compact v) = (Draft.ofJson v, none) := by
  rcases exists_document_compact (readsBack_of_legible legible) with ⟨_, read, rfl⟩
  exact read

/-- The text of a value is read as what its draft is read as. -/
theorem readAs_compact {α : Type} {v : Json} {read : Draft → Except Failure α} {a : α}
    (reads : ReadsAs (compact v).length v (read · = .ok a)) : readAs read (compact v) = .ok a := by
  rcases exists_document_compact reads with ⟨draft, document_eq, draft_eq⟩
  rw [readAs, document_eq]
  simp only [draft_eq, bind, Except.bind]
  rfl

end Reader

mutual

/-- A value written as a draft is read as the same value. -/
theorem toJson_ofJson : (v : Json) → (Draft.ofJson v).toJson = .ok v
  | .null | .bool _ | .int _ | .real _ | .string _ => rfl
  | .array items => by
      rw [Draft.ofJson, Draft.toJson, toItems_ofItems items]
      rfl
  | .object members => by
      rw [Draft.ofJson, Draft.toJson, toMembers_ofMembers members]
      rfl

theorem toItems_ofItems : (items : List Json) → Draft.toItems (Draft.ofItems items) = .ok items
  | [] => rfl
  | item :: rest => by
      rw [Draft.ofItems, Draft.toItems, toJson_ofJson item, toItems_ofItems rest]
      rfl

theorem toMembers_ofMembers : (members : List (String × Json)) →
    Draft.toMembers (Draft.ofMembers members) = .ok members
  | [] => rfl
  | (key, value) :: rest => by
      rw [Draft.ofMembers, Draft.toMembers, toJson_ofJson value, toMembers_ofMembers rest]
      rfl

end

/-- The text of a legible value is read as this value. -/
theorem json_compact {v : Json} (legible : Legible Reader.generalDepth v) :
    Reader.json (compact v) = .ok v := by
  rw [Reader.json, Reader.document_compact legible]
  simp only [toJson_ofJson]
  rfl

/-- Legible values with the same text are the same. -/
theorem compact_injective {v w : Json} (first : Legible Reader.generalDepth v)
    (second : Legible Reader.generalDepth w) (same : compact v = compact w) : v = w := by
  have read := json_compact first
  rw [same, json_compact second] at read
  exact (Except.ok.inj read).symm

/-! ## Printable texts -/

/-- Whether no character of a text is a control character, so that no line ends in it. -/
def Printable (text : List Char) : Prop := ∀ c ∈ text, 0x20 ≤ c.toNat

theorem all_iff_printable {text : List Char} :
    text.all (fun c => 0x20 ≤ c.toNat) = true ↔ Printable text := by
  simp [Printable]

instance (text : List Char) : Decidable (Printable text) :=
  decidable_of_decidable_of_iff all_iff_printable

theorem Printable.append {text more : List Char} (first : Printable text)
    (second : Printable more) : Printable (text ++ more) := by
  intro c member
  rcases List.mem_append.mp member with inFirst | inSecond
  · exact first c inFirst
  · exact second c inSecond

theorem Printable.cons {c : Char} {text : List Char} (visible : 0x20 ≤ c.toNat)
    (printable : Printable text) : Printable (c :: text) :=
  List.forall_mem_cons.mpr ⟨visible, printable⟩

theorem printable_nil : Printable [] := fun _ member => absurd member List.not_mem_nil

theorem printable_escapeChar (c : Char) : Printable (escapeChar c) := by
  have digits : ∀ n < 32, 0x20 ≤ (hexDigit (n / 16)).toNat ∧ 0x20 ≤ (hexDigit n).toNat := by decide
  unfold escapeChar
  repeat' split
  -- What has a letter of its own is a closed text.
  any_goals decide
  case isTrue control =>
    rcases digits c.toNat control with ⟨high, low⟩
    exact .append (by decide : Printable ['\\', 'u', '0', '0'])
      (.cons high (.cons low printable_nil))
  case isFalse visible => exact .cons (Nat.not_lt.mp visible) printable_nil

theorem printable_quote (s : String) : Printable (quote s) := by
  apply Printable.append
  · apply Printable.cons (by decide)
    intro c member
    rcases List.mem_flatMap.mp member with ⟨d, -, inside⟩
    exact printable_escapeChar d c inside
  · exact .cons (by decide) printable_nil

theorem printable_integer (n : Int) : Printable (Text.integer n) := by
  intro c member
  rcases Text.mem_integer member with rfl | digit
  · decide
  · have least : 48 ≤ c.toNat := (Text.isDigit_iff.mp digit).1
    omega

theorem printable_compactItems {items : List Json}
    (all : ∀ item ∈ items, Printable (compact item)) : Printable (compactItems items) := by
  induction items with
  | nil => exact printable_nil
  | cons item rest ih =>
      rcases List.forall_mem_cons.mp all with ⟨first, others⟩
      cases rest with
      | nil => exact first
      | cons next rest => exact first.append (.cons (by decide) (ih others))

theorem printable_compactMembers {members : List (String × Json)}
    (all : ∀ member ∈ members, Printable (compact member.2)) :
    Printable (compactMembers members) := by
  induction members with
  | nil => exact printable_nil
  | cons member rest ih =>
      rcases List.forall_mem_cons.mp all with ⟨first, others⟩
      have entry : Printable (quote member.1 ++ ':' :: compact member.2) :=
        (printable_quote _).append (.cons (by decide) first)
      cases rest with
      | nil => exact entry
      | cons next rest => exact entry.append (.cons (by decide) (ih others))

/-- The text of a legible value has no control characters. -/
theorem printable_compact {depth : Nat} {v : Json} (legible : Legible depth v) :
    Printable (compact v) := by
  induction legible with
  | null => decide
  | bool b => cases b <;> decide
  | @int _ n =>
      rw [compact]
      exact printable_integer n
  | string s =>
      rw [compact]
      exact printable_quote s
  | array all ih =>
      rw [compact]
      apply Printable.append
      · exact .cons (by decide) (printable_compactItems ih)
      · exact .cons (by decide) printable_nil
  | object all ih =>
      rw [compact]
      apply Printable.append
      · exact .cons (by decide) (printable_compactMembers ih)
      · exact .cons (by decide) printable_nil

end TopicReplay.Json
