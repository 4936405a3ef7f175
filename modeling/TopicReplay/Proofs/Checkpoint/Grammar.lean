import TopicReplay.Checkpoint.Selection
import TopicReplay.Proofs.Text.Blank
import TopicReplay.Proofs.Time.Apart

/-!
# The grammar of checkpoints

A checkpoint is written in one of eight ways: as a keyword, as a whole number, or in one of
six layouts of dates and times. No text is written in two of them. A keyword has no digit, a
number has nothing but digits behind its sign, a date has a digit and later a dash, and no
two layouts share a text. So the order in which the ways are tried does not matter.

The main statement is `grammar_exact`.
-/

namespace TopicReplay.Checkpoint

open Text (Denotes isDigit trim)

/-- A way of writing checkpoints. -/
inductive Way where
  | keyword
  | number
  /-- A layout of dates and times. -/
  | dated (layout : Time.Layout)
  deriving DecidableEq

/-- The eight ways, in the order in which they are tried. -/
def ways : List Way :=
  .keyword :: .number :: (Time.Layout.rfc3339 :: Time.Layout.naive).map .dated

/-- A text without white space at its ends names a checkpoint in a way. -/
inductive Names : Way → List Char → Checkpoint → Prop where
  /-- A word of the table in any case of its ASCII letters. -/
  | keyword {cs : List Char} {word : String} {checkpoint : Checkpoint}
      (known : (word, checkpoint) ∈ keywords) (same : cs.map Char.toLower = word.toList) :
      Names .keyword cs checkpoint
  | oldest {cs : List Char} (denotes : Denotes cs (-2)) : Names .number cs .oldest
  | newest {cs : List Char} (denotes : Denotes cs (-1)) : Names .number cs .newest
  | offset {cs : List Char} {n : Int} (denotes : Denotes cs n) (nonneg : 0 ≤ n)
      (fits : n ≤ Text.maxInt64) : Names .number cs (.offset n)
  | time {layout : Time.Layout} {cs : List Char} {t : Instant} (read : layout.read cs = .ok t) :
      Names (.dated layout) cs (.time t)

/-- What a way makes of a text, if it applies to it. Every number is one, and those below
the oldest checkpoint are refused. -/
def Way.answer? (way : Way) (cs : List Char) : Option (Except Fault Checkpoint) :=
  match way with
  | .keyword => (ofKeyword? cs).map .ok
  | .number => (Text.int64? cs).map ofNumber
  | .dated layout => (layout.read cs).toOption.map fun t => .ok (.time t)

/-- Tries ways in some order until one of them applies. -/
def ofTextBy (order : List Way) (cs : List Char) : Except Fault Checkpoint :=
  (order.findSome? (·.answer? cs)).getD (.error .unrecognised)

section Ways

variable {cs : List Char} {checkpoint other : Checkpoint} {way : Way}

theorem ofText_eq (cs : List Char) : ofText cs = ofTextBy ways cs := by
  have dates : ((Time.Layout.rfc3339 :: Time.Layout.naive).map Way.dated).findSome?
      (·.answer? cs) = (instant? cs).map fun t => .ok (.time t) := by
    rw [List.findSome?_map, instant?, Time.Layout.readFirst?, List.map_findSome?]
    rfl
  rw [ofText, ofTextBy, ways, List.findSome?_cons, List.findSome?_cons, dates]
  simp only [Way.answer?]
  cases ofKeyword? cs with
  | some checkpoint => rfl
  | none =>
      cases Text.int64? cs with
      | some n => rfl
      | none => cases instant? cs <;> rfl

/-! ## What each way accepts -/

/-- Every word of the table names one checkpoint. -/
theorem keywords_unique : ∀ first ∈ keywords, ∀ second ∈ keywords, first.1 = second.1 →
    first.2 = second.2 := by
  decide

theorem ofKeyword?_eq_some_iff :
    ofKeyword? cs = some checkpoint ↔
      ∃ word, (word, checkpoint) ∈ keywords ∧ cs.map Char.toLower = word.toList := by
  have named : ∀ {entry : String × Checkpoint},
      (keywords.find? fun word => word.1.toList == cs.map Char.toLower) = some entry →
        cs.map Char.toLower = entry.1.toList := fun first => by
    have same := List.find?_some first
    exact (beq_iff_eq.mp same).symm
  constructor
  · intro found
    rcases Option.map_eq_some_iff.mp found with ⟨⟨word, _⟩, first, rfl⟩
    exact ⟨word, List.mem_of_find?_eq_some first, named first⟩
  · rintro ⟨word, known, same⟩
    have some_word : (keywords.find? fun word => word.1.toList == cs.map Char.toLower).isSome :=
      List.find?_isSome.mpr ⟨(word, checkpoint), known, beq_iff_eq.mpr same.symm⟩
    rcases Option.isSome_iff_exists.mp some_word with ⟨⟨twin, other⟩, first⟩
    have twins : twin = word := String.toList_inj.mp ((named first).symm.trans same)
    subst twins
    have once := keywords_unique _ (List.mem_of_find?_eq_some first) _ known rfl
    rw [ofKeyword?, first, Option.map_some, once]

theorem int64?_of_denotes {n : Int} (denotes : Denotes cs n) (least : -2 ≤ n)
    (most : n ≤ Text.maxInt64) : Text.int64? cs = some n := by
  refine Text.int64?_eq_some_iff.mpr ⟨denotes, ?_, most⟩
  unfold Text.minInt64
  omega

theorem ofNumber_eq_ok_iff {n : Int} :
    ofNumber n = .ok checkpoint ↔
      n = -2 ∧ checkpoint = .oldest ∨ n = -1 ∧ checkpoint = .newest ∨
        0 ≤ n ∧ checkpoint = .offset n := by
  unfold ofNumber
  split
  case isTrue oldest => simp [oldest, eq_comm]
  case isFalse =>
    split
    case isTrue newest => simp [newest, eq_comm]
    case isFalse =>
      split
      case isTrue below =>
        simp
        omega
      case isFalse =>
        have nonneg : 0 ≤ n := by omega
        simp [*, eq_comm]

theorem answer?_eq_ok_iff :
    way.answer? cs = some (.ok checkpoint) ↔ Names way cs checkpoint := by
  constructor
  · intro answered
    cases way with
    | keyword =>
        rcases Option.map_eq_some_iff.mp answered with ⟨_, found, equal⟩
        cases equal
        rcases ofKeyword?_eq_some_iff.mp found with ⟨word, known, same⟩
        exact .keyword known same
    | number =>
        rcases Option.map_eq_some_iff.mp answered with ⟨n, read, equal⟩
        rcases Text.int64?_eq_some_iff.mp read with ⟨denotes, _, most⟩
        rcases ofNumber_eq_ok_iff.mp equal with ⟨rfl, rfl⟩ | ⟨rfl, rfl⟩ | ⟨nonneg, rfl⟩
        · exact .oldest denotes
        · exact .newest denotes
        · exact .offset denotes nonneg most
    | dated layout =>
        rcases Option.map_eq_some_iff.mp answered with ⟨t, read, equal⟩
        cases equal
        exact .time (toOption_eq_some_iff.mp read)
  · intro names
    cases names with
    | keyword known same =>
        rw [Way.answer?, ofKeyword?_eq_some_iff.mpr ⟨_, known, same⟩, Option.map_some]
    | oldest denotes =>
        rw [Way.answer?, int64?_of_denotes denotes (by decide) (by decide)]
        rfl
    | newest denotes =>
        rw [Way.answer?, int64?_of_denotes denotes (by decide) (by decide)]
        rfl
    | offset denotes nonneg fits =>
        rw [Way.answer?, int64?_of_denotes denotes (by omega) fits, Option.map_some,
          ofNumber_eq_ok_iff.mpr (.inr (.inr ⟨nonneg, rfl⟩))]
    | time read => rw [Way.answer?, read]; rfl

/-! ## No text in two ways -/

theorem keywords_letters :
    (keywords.all fun entry => entry.1.toList.all fun c => !isDigit c) = true := by
  decide

/-- No keyword has a digit. -/
theorem isDigit_of_mem_keyword (found : (ofKeyword? cs).isSome) {c : Char} (member : c ∈ cs) :
    isDigit c = false := by
  rcases Option.isSome_iff_exists.mp found with ⟨checkpoint, known⟩
  rcases ofKeyword?_eq_some_iff.mp known with ⟨word, known, same⟩
  have letters := List.all_eq_true.mp (List.all_eq_true.mp keywords_letters _ known)
  have lower : c.toLower ∈ word.toList := same ▸ List.mem_map_of_mem member
  by_contra digit
  rw [Bool.not_eq_false] at digit
  have fixed : c.toLower = c := by
    have digit_most := (Text.isDigit_iff.mp digit).2
    have below : ¬ (c.val ≥ 'A'.val ∧ c.val ≤ 'Z'.val) := fun upper =>
      absurd (UInt32.le_trans upper.1 digit_most) (by decide)
    exact dif_neg below
  rw [fixed] at lower
  have letter := letters c lower
  rw [digit] at letter
  exact Bool.false_ne_true letter

theorem denotes_of_answer? (answers : (Way.number.answer? cs).isSome) : ∃ n, Denotes cs n := by
  rcases Option.isSome_iff_exists.mp answers with ⟨_, answer⟩
  rcases Option.map_eq_some_iff.mp answer with ⟨n, read, _⟩
  exact ⟨n, (Text.int64?_eq_some_iff.mp read).1⟩

theorem leaves_of_answer? {layout : Time.Layout}
    (answers : ((Way.dated layout).answer? cs).isSome) : layout.Leaves cs [] := by
  rcases Option.isSome_iff_exists.mp answers with ⟨_, answer⟩
  rcases Option.map_eq_some_iff.mp answer with ⟨t, read, _⟩
  exact Time.Layout.leaves_of_read (toOption_eq_some_iff.mp read)

theorem mem_layouts {layout : Time.Layout} (known : .dated layout ∈ ways) :
    layout ∈ Time.Layout.rfc3339 :: Time.Layout.naive := by
  simpa [ways, eq_comm] using known

theorem not_number_of_keyword (word : (Way.keyword.answer? cs).isSome) :
    ¬ (Way.number.answer? cs).isSome := by
  intro number
  rcases denotes_of_answer? number with ⟨n, denotes⟩
  rcases denotes.exists_digit with ⟨c, member, digit⟩
  have letter := isDigit_of_mem_keyword (by simpa [Way.answer?] using word) member
  exact Bool.false_ne_true (letter.symm.trans digit)

theorem not_dated_of_keyword (word : (Way.keyword.answer? cs).isSome) {layout : Time.Layout}
    (known : .dated layout ∈ ways) : ¬ ((Way.dated layout).answer? cs).isSome := by
  intro dated
  rcases Time.Layout.exists_dash (mem_layouts known) (leaves_of_answer? dated) with
    ⟨before, d, after, digit, -, rfl⟩
  have letter := isDigit_of_mem_keyword (by simpa [Way.answer?] using word)
    (List.mem_append_right before List.mem_cons_self)
  exact Bool.false_ne_true (letter.symm.trans digit)

/-- Behind the first character a number has no dash. -/
theorem not_dated_of_number (number : (Way.number.answer? cs).isSome) {layout : Time.Layout}
    (known : .dated layout ∈ ways) : ¬ ((Way.dated layout).answer? cs).isSome := by
  intro dated
  rcases denotes_of_answer? number with ⟨n, denotes⟩
  rcases Time.Layout.exists_dash (mem_layouts known) (leaves_of_answer? dated) with
    ⟨before, d, after, -, dash, rfl⟩
  have behind : '-' ∈ (before ++ d :: after).tail := by
    cases before with
    | nil => exact dash
    | cons c before => exact List.mem_append_right before (List.mem_cons_of_mem d dash)
  exact absurd (denotes.isDigit_of_mem_tail _ behind) (by decide)

/-- The way in which a text is written is unique. -/
theorem eq_of_answer? {first second : Way} (known : first ∈ ways) (known_too : second ∈ ways)
    (answers : (first.answer? cs).isSome) (answers_too : (second.answer? cs).isSome) :
    first = second := by
  cases first with
  | keyword =>
      cases second with
      | keyword => rfl
      | number => exact absurd answers_too (not_number_of_keyword answers)
      | dated layout => exact absurd answers_too (not_dated_of_keyword answers known_too)
  | number =>
      cases second with
      | keyword => exact absurd answers (not_number_of_keyword answers_too)
      | number => rfl
      | dated layout => exact absurd answers_too (not_dated_of_number answers known_too)
  | dated layout =>
      cases second with
      | keyword => exact absurd answers (not_dated_of_keyword answers_too known)
      | number => exact absurd answers (not_dated_of_number answers_too known)
      | dated other =>
          exact congrArg Way.dated (Time.Layout.eq_of_leaves (mem_layouts known)
            (mem_layouts known_too) (leaves_of_answer? answers) (leaves_of_answer? answers_too))

/-- In any order the first way that applies is the one that does. -/
theorem findSome?_answer? {order : List Way} (reordered : order.Perm ways)
    {answer : Except Fault Checkpoint} :
    order.findSome? (·.answer? cs) = some answer ↔ ∃ way ∈ ways, way.answer? cs = some answer := by
  constructor
  · intro found
    rcases List.exists_of_findSome?_eq_some found with ⟨way, member, answered⟩
    exact ⟨way, reordered.mem_iff.mp member, answered⟩
  · rintro ⟨way, known, answered⟩
    have some_way : (order.findSome? (·.answer? cs)).isSome :=
      List.findSome?_isSome_iff.mpr
        ⟨way, reordered.mem_iff.mpr known, Option.isSome_iff_exists.mpr ⟨answer, answered⟩⟩
    rcases Option.isSome_iff_exists.mp some_way with ⟨other, found⟩
    rcases List.exists_of_findSome?_eq_some found with ⟨first, member, first_answered⟩
    have same : first = way := eq_of_answer? (reordered.mem_iff.mp member) known
      (Option.isSome_iff_exists.mpr ⟨other, first_answered⟩)
      (Option.isSome_iff_exists.mpr ⟨answer, answered⟩)
    subst same
    rw [found, ← first_answered, answered]

/-- Ways can be tried in any order. -/
theorem ofTextBy_of_perm {order : List Way} (reordered : order.Perm ways) (cs : List Char) :
    ofTextBy order cs = ofText cs := by
  have same : order.findSome? (·.answer? cs) = ways.findSome? (·.answer? cs) := by
    apply Option.ext
    intro answer
    rw [findSome?_answer? reordered, findSome?_answer? (List.Perm.refl ways)]
  rw [ofText_eq, ofTextBy, ofTextBy, same]

theorem ofText_eq_ok_iff :
    ofText cs = .ok checkpoint ↔ ∃ way ∈ ways, Names way cs checkpoint := by
  have found : ofText cs = .ok checkpoint ↔
      ways.findSome? (·.answer? cs) = some (.ok checkpoint) := by
    rw [ofText_eq, ofTextBy]
    cases ways.findSome? (·.answer? cs) <;> simp
  rw [found, findSome?_answer? (List.Perm.refl ways)]
  simp only [answer?_eq_ok_iff]

/-- A text names one checkpoint in one way. -/
theorem eq_of_names {first second : Way} (known : first ∈ ways) (known_too : second ∈ ways)
    (names : Names first cs checkpoint) (names_too : Names second cs other) :
    first = second ∧ checkpoint = other := by
  have answer := answer?_eq_ok_iff.mpr names
  have answer_too := answer?_eq_ok_iff.mpr names_too
  have same : first = second := eq_of_answer? known known_too
    (Option.isSome_iff_exists.mpr ⟨_, answer⟩) (Option.isSome_iff_exists.mpr ⟨_, answer_too⟩)
  subst same
  exact ⟨rfl, Except.ok.inj (Option.some.inj (answer.symm.trans answer_too))⟩

end Ways

/-! ## Expressions -/

section Expressions

variable {raw other : String} {isStop : Bool} {checkpoint : Checkpoint}

/-- What an expression comes to, as far as it can be read. -/
theorem parse_of_ofText {found : Checkpoint} (reads : ofText (trim raw.toList) = .ok found) :
    parse raw isStop =
      if isStop && !found.canStop then .error (.notAStop (Text.trimString raw))
      else .ok found := by
  unfold parse Text.trimString
  split
  case h_1 empty =>
    have refused : ofText [] = .error .unrecognised := rfl
    rw [empty, refused] at reads
    contradiction
  case h_2 => rw [reads]

/-- An expression that cannot be read is refused with its fault. -/
theorem parse_of_ofText_error {fault : Fault} (reads : ofText (trim raw.toList) = .error fault)
    (isStop : Bool) :
    ∃ input fault, parse raw isStop = .error (.unreadable input fault) := by
  unfold parse
  split
  case h_1 => exact ⟨_, _, rfl⟩
  case h_2 => exact ⟨_, fault, by rw [reads]⟩

theorem parse_false_eq_ok_iff :
    parse raw false = .ok checkpoint ↔ ofText (trim raw.toList) = .ok checkpoint := by
  cases reads : ofText (trim raw.toList) with
  | ok found => simp [parse_of_ofText reads]
  | error fault =>
      rcases parse_of_ofText_error reads false with ⟨input, fault, refused⟩
      simp [refused]

theorem parse_true_eq_ok_iff :
    parse raw true = .ok checkpoint ↔
      parse raw false = .ok checkpoint ∧ checkpoint.canStop = true := by
  cases reads : ofText (trim raw.toList) with
  | ok found =>
      rw [parse_of_ofText reads, parse_of_ofText reads]
      cases stop : found.canStop with
      | false =>
          suffices found = checkpoint → checkpoint.canStop ≠ true by simpa
          rintro rfl
          simp [stop]
      | true =>
          suffices found = checkpoint → checkpoint.canStop = true by simpa
          rintro rfl
          exact stop
  | error fault =>
      rcases parse_of_ofText_error reads true with ⟨input, fault, refused⟩
      rcases parse_of_ofText_error reads false with ⟨input, fault, refused_too⟩
      rw [refused, refused_too]
      simp

theorem parse_false_of_parse (read : parse raw isStop = .ok checkpoint) :
    parse raw false = .ok checkpoint := by
  cases isStop with
  | false => exact read
  | true => exact (parse_true_eq_ok_iff.mp read).1

theorem canStop_eq_true_iff :
    checkpoint.canStop = true ↔
      (∃ n, checkpoint = .offset n) ∨ (∃ t, checkpoint = .time t) ∨ checkpoint = .newest := by
  cases checkpoint <;> simp [canStop]

theorem canStop_eq_false_iff :
    checkpoint.canStop = false ↔ checkpoint = .oldest ∨ checkpoint = .stored := by
  cases checkpoint <;> simp [canStop]

theorem parse_true_eq_notAStop_iff {text : String} :
    parse raw true = .error (.notAStop text) ↔
      text = Text.trimString raw ∧
        ∃ checkpoint, parse raw false = .ok checkpoint ∧ checkpoint.canStop = false := by
  cases reads : ofText (trim raw.toList) with
  | ok found =>
      rw [parse_of_ofText reads, parse_of_ofText reads]
      cases stop : found.canStop with
      | false =>
          suffices Text.trimString raw = text ↔ text = Text.trimString raw by simpa [stop]
          exact eq_comm
      | true => simp [stop]
  | error fault =>
      rcases parse_of_ofText_error reads true with ⟨input, fault, refused⟩
      rcases parse_of_ofText_error reads false with ⟨input, fault, refused_too⟩
      rw [refused, refused_too]
      simp

/-- White space at the ends of an expression does not matter. -/
theorem parse_eq_ok_congr (same : trim raw.toList = trim other.toList) :
    parse raw isStop = .ok checkpoint ↔ parse other isStop = .ok checkpoint := by
  cases isStop with
  | false => rw [parse_false_eq_ok_iff, parse_false_eq_ok_iff, same]
  | true =>
      rw [parse_true_eq_ok_iff, parse_true_eq_ok_iff, parse_false_eq_ok_iff, parse_false_eq_ok_iff,
        same]

end Expressions

end TopicReplay.Checkpoint

namespace TopicReplay.Selection

open Checkpoint (parse)
open Text (Denotes isBlank trim trimLeft trimRight)

section Scopes

variable {cs before after : List Char}

theorem splitScope_eq_none_iff : splitScope cs = none ↔ '#' ∉ cs := by
  induction cs with
  | nil => simp [splitScope]
  | cons c rest ih =>
      by_cases separator : c = '#'
      · simp [splitScope, separator]
      · simp [splitScope, separator, Ne.symm separator, ih]

/-- A token is split at the first of its separators. -/
theorem splitScope_eq_some_iff :
    splitScope cs = some (before, after) ↔ cs = before ++ '#' :: after ∧ '#' ∉ before := by
  induction cs generalizing before with
  | nil => simp [splitScope]
  | cons c rest ih =>
      by_cases separator : c = '#'
      · subst separator
        cases before with
        | nil => simp [splitScope, eq_comm]
        | cons d before =>
            suffices '#' = d → rest = before ++ '#' :: after → '#' ≠ d → '#' ∈ before by
              simpa [splitScope]
            exact fun same _ other => absurd same other
      · cases before with
        | nil => simp [splitScope, separator]
        | cons d before =>
            have onward : splitScope (c :: rest) = some (d :: before, after) ↔
                c = d ∧ splitScope rest = some (before, after) := by
              simp only [splitScope, if_neg separator, Option.map_eq_some_iff, Prod.exists,
                Prod.mk.injEq, List.cons.injEq]
              constructor
              · rintro ⟨_, _, split, ⟨rfl, rfl⟩, rfl⟩
                exact ⟨rfl, split⟩
              · rintro ⟨rfl, split⟩
                exact ⟨before, after, split, ⟨rfl, rfl⟩, rfl⟩
            rw [onward, ih, List.cons_append, List.cons.injEq, List.mem_cons, not_or]
            constructor
            · rintro ⟨rfl, rest, none⟩
              exact ⟨⟨rfl, rest⟩, Ne.symm separator, none⟩
            · rintro ⟨⟨rfl, rest⟩, _, none⟩
              exact ⟨rfl, rest, none⟩

theorem partitionNumber?_eq_some_iff {n : Int} :
    partitionNumber? cs = some n ↔ Denotes (trim cs) n ∧ 0 ≤ n ∧ n ≤ Text.maxInt32 := by
  simp only [partitionNumber?, Option.filter_eq_some_iff, Text.int32?_eq_some_iff,
    decide_eq_true_eq]
  constructor
  · rintro ⟨⟨denotes, _, most⟩, nonneg⟩
    exact ⟨denotes, nonneg, most⟩
  · rintro ⟨denotes, nonneg, most⟩
    refine ⟨⟨denotes, ?_, most⟩, nonneg⟩
    unfold Text.minInt32
    omega

end Scopes

/-! ## Tokens -/

/-- A token names a scope and a checkpoint: the checkpoint alone for all partitions, or a
number, which may have a sign, and then the checkpoint behind the first separator. -/
inductive Spells (raw : String) (isStop : Bool) : PartitionScope → Checkpoint → Prop where
  | all {checkpoint : Checkpoint} (whole : '#' ∉ raw.toList)
      (reads : parse raw isStop = .ok checkpoint) : Spells raw isStop .all checkpoint
  | partition {before after : List Char} {n : Int} {checkpoint : Checkpoint}
      (split : raw.toList = before ++ '#' :: after) (first : '#' ∉ before)
      (denotes : Denotes (trim before) n) (nonneg : 0 ≤ n) (fits : n ≤ Text.maxInt32)
      (reads : parse (String.ofList after) isStop = .ok checkpoint) :
      Spells raw isStop (.partition n) checkpoint

section Tokens

variable {raw : String} {isStop : Bool} {scope : PartitionScope} {checkpoint : Checkpoint}

theorem parseToken_eq_ok_iff :
    parseToken raw isStop = .ok (scope, checkpoint) ↔ Spells raw isStop scope checkpoint := by
  cases split : splitScope raw.toList with
  | none =>
      have whole := splitScope_eq_none_iff.mp split
      have none_kept : splitScope (trim raw.toList) = none :=
        splitScope_eq_none_iff.mpr fun member => whole ((Text.mem_trim_iff rfl).mp member)
      have untrimmed : parse (String.ofList (trim raw.toList)) isStop = .ok checkpoint ↔
          parse raw isStop = .ok checkpoint :=
        Checkpoint.parse_eq_ok_congr (by simp)
      simp only [parseToken, none_kept, map_eq_ok_iff]
      constructor
      · rintro ⟨_, reads, equal⟩
        cases equal
        exact .all whole (untrimmed.mp reads)
      · intro spells
        cases spells with
        | all _ reads => exact ⟨checkpoint, untrimmed.mpr reads, rfl⟩
        | partition parts => exact absurd (parts ▸ by simp) whole
  | some parts =>
      rcases parts with ⟨before, after⟩
      rcases splitScope_eq_some_iff.mp split with ⟨whole, first⟩
      have kept : splitScope (trim raw.toList) = some (trimLeft before, trimRight after) := by
        rw [whole, Text.trim_append_cons before after rfl]
        refine splitScope_eq_some_iff.mpr ⟨rfl, fun member => first ?_⟩
        exact (List.dropWhile_sublist _).subset member
      have untrimmed : parse (String.ofList (trimRight after)) isStop = .ok checkpoint ↔
          parse (String.ofList after) isStop = .ok checkpoint :=
        Checkpoint.parse_eq_ok_congr (by simp)
      simp only [parseToken, kept]
      constructor
      · intro reads
        split at reads
        case h_1 => contradiction
        case h_2 n number =>
          rcases map_eq_ok_iff.mp reads with ⟨_, reads, equal⟩
          rcases partitionNumber?_eq_some_iff.mp number with ⟨denotes, nonneg, fits⟩
          cases equal
          rw [Text.trim_trimLeft] at denotes
          exact .partition whole first denotes nonneg fits (untrimmed.mp reads)
      · intro spells
        cases spells with
        | all plain => exact absurd (whole ▸ by simp) plain
        | @partition before' after' n _ parts first' denotes nonneg fits reads =>
            have again := splitScope_eq_some_iff.mpr ⟨parts, first'⟩
            rw [split] at again
            cases again
            have number : partitionNumber? (trimLeft before) = some n := by
              rw [partitionNumber?_eq_some_iff, Text.trim_trimLeft]
              exact ⟨denotes, nonneg, fits⟩
            rw [number]
            exact map_eq_ok_iff.mpr ⟨checkpoint, untrimmed.mpr reads, rfl⟩

end Tokens

end TopicReplay.Selection

namespace TopicReplay

open Checkpoint (parse Names ofText ofTextBy ways)
open Selection (parseToken Spells)
open Text (Denotes trim)

/-- The grammar of checkpoints is exact and unambiguous. An expression is read exactly if,
without the white space at its ends, it names a checkpoint in one of the eight ways, and it
does so in one of them alone, so that they can be tried in any order. The numbers -2 and -1
are the two ends, and no offset is negative. To stop, an expression must name an offset, an
instant or the newest checkpoint, and it is refused as no stop exactly if it names another
one. A token is read exactly if it spells a scope and a checkpoint. -/
theorem grammar_exact :
    (∀ raw checkpoint, parse raw false = .ok checkpoint ↔
      ∃ way ∈ ways, Names way (trim raw.toList) checkpoint) ∧
    (∀ cs, ∀ first ∈ ways, ∀ second ∈ ways, ∀ a b,
      Names first cs a → Names second cs b → first = second ∧ a = b) ∧
    (∀ order, List.Perm order ways → ∀ cs, ofTextBy order cs = ofText cs) ∧
    (∀ raw, Denotes (trim raw.toList) (-2) → parse raw false = .ok .oldest) ∧
    (∀ raw, Denotes (trim raw.toList) (-1) → parse raw false = .ok .newest) ∧
    (∀ raw isStop n, parse raw isStop = .ok (.offset n) → 0 ≤ n) ∧
    (∀ raw checkpoint, parse raw true = .ok checkpoint ↔ parse raw false = .ok checkpoint ∧
      ((∃ n, checkpoint = .offset n) ∨ (∃ t, checkpoint = .time t) ∨ checkpoint = .newest)) ∧
    (∀ raw text, parse raw true = .error (.notAStop text) ↔ text = Text.trimString raw ∧
      (parse raw false = .ok .oldest ∨ parse raw false = .ok .stored)) ∧
    (∀ raw isStop scope checkpoint, parseToken raw isStop = .ok (scope, checkpoint) ↔
      Spells raw isStop scope checkpoint) := by
  have reads : ∀ raw checkpoint, parse raw false = .ok checkpoint ↔
      ∃ way ∈ ways, Names way (trim raw.toList) checkpoint := fun raw checkpoint =>
    Checkpoint.parse_false_eq_ok_iff.trans Checkpoint.ofText_eq_ok_iff
  refine ⟨reads, ?_, fun order reordered => Checkpoint.ofTextBy_of_perm reordered,
    fun raw denotes => (reads raw _).mpr ⟨.number, by decide, .oldest denotes⟩,
    fun raw denotes => (reads raw _).mpr ⟨.number, by decide, .newest denotes⟩, ?_, ?_, ?_,
    fun raw isStop scope checkpoint => Selection.parseToken_eq_ok_iff⟩
  · intro cs first known second known_too a b names names_too
    exact Checkpoint.eq_of_names known known_too names names_too
  · intro raw isStop n read
    rcases (reads raw _).mp (Checkpoint.parse_false_of_parse read) with ⟨way, _, names⟩
    cases names with
    | offset _ nonneg => exact nonneg
    | keyword known => exact absurd known (by simp [Checkpoint.keywords])
  · intro raw checkpoint
    rw [Checkpoint.parse_true_eq_ok_iff, Checkpoint.canStop_eq_true_iff]
  · intro raw text
    rw [Checkpoint.parse_true_eq_notAStop_iff]
    simp only [Checkpoint.canStop_eq_false_iff, and_or_left, exists_or, exists_eq_right]

/-- Signs, zeros and white space are part of the grammar of numbers, a date is no number, and
a keyword may be no stop. -/
theorem grammar_exact_signed :
    parse " +007 " false = .ok (.offset 7) ∧
      (∀ n, ¬ Names .number "2019-9-8".toList (.offset n)) ∧
      parse "Oldest" true = .error (.notAStop "Oldest") ∧
      parseToken "+3 #-1" true = .ok (.partition 3, .newest) := by
  rcases grammar_exact with ⟨reads, unique, -, -, newest, -, stops, refused, tokens⟩
  have seven : Denotes (trim " +007 ".toList) 7 := Text.signed?_eq_some_iff.mp (by decide)
  have date : Names (.dated Time.Layout.date) "2019-9-8".toList
      (.time ⟨1567900800, 0, by decide⟩) := .time (by decide)
  have oldest : Names .keyword (trim "Oldest".toList) .oldest :=
    .keyword (List.mem_cons_self : ("oldest", _) ∈ Checkpoint.keywords) (by decide)
  have minus_one : Denotes (trim "-1".toList) (-1) := Text.signed?_eq_some_iff.mp (by decide)
  have three : Denotes (trim "+3 ".toList) 3 := Text.signed?_eq_some_iff.mp (by decide)
  refine ⟨(reads _ _).mpr ⟨.number, by decide, .offset seven (by decide) (by decide)⟩, ?_,
    (refused _ _).mpr ⟨rfl, .inl ((reads _ _).mpr ⟨.keyword, by decide, oldest⟩)⟩, ?_⟩
  · intro n number
    have same := (unique _ _ (by decide) _ (by decide) _ _ number date).1
    contradiction
  · have stop : parse (String.ofList "-1".toList) true = .ok .newest :=
      (stops _ _).mpr ⟨newest _ minus_one, .inr (.inr rfl)⟩
    exact (tokens _ _ _ _).mpr
      (.partition (rfl : _ = "+3 ".toList ++ '#' :: "-1".toList) (by decide) three (by decide)
        (by decide) stop)

end TopicReplay
