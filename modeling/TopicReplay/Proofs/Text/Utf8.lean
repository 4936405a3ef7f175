import Mathlib.Tactic.IntervalCases
import Mathlib.Tactic.SplitIfs
import TopicReplay.Text.Utf8

/-!
# Reading back UTF-8

The bytes of a character lead the reader from between two encodings back to
there, with this character complete. Text that was encoded is therefore text
throughout and reads as itself, and no other bytes read as it throughout. The encoding
also keeps the order: texts compare as their bytes do.

The main statements are `decodeUtf8_encodeUtf8`, `encodeUtf8_of_decodeUtf8?`,
`lossyString_bytesOf`, `bytesOf_injective` and `compare_bytesOf`.
-/

namespace TopicReplay.Text

/-! ## Characters -/

/-- The progress that a byte makes, from within an encoding or between two. -/
def progress? : Option Partial → UInt8 → Option Progress
  | none, b => begin? b
  | some state, b => state.extend? b

/-- The bytes complete a character, from within its encoding or from its start. -/
inductive Spells : Option Partial → Bytes → Char → Prop where
  | last {state : Option Partial} {b : UInt8} {c : Char}
      (done : progress? state b = some (.complete c)) : Spells state [b] c
  | more {state : Option Partial} {b : UInt8} {next : Partial} {bytes : Bytes} {c : Char}
      (owed : progress? state b = some (.more next)) (rest : Spells (some next) bytes c) :
      Spells state (b :: bytes) c

theorem chunksFrom_cons_complete {state : Option Partial} {b : UInt8} {c : Char}
    (done : progress? state b = some (.complete c)) (rest : Bytes) :
    chunksFrom state (b :: rest) = some c :: chunksFrom none rest := by
  cases state with
  | none =>
      rw [progress?] at done
      simp [chunksFrom, done]
  | some state =>
      rw [progress?] at done
      simp [chunksFrom, done]

theorem chunksFrom_cons_more {state : Option Partial} {b : UInt8} {next : Partial}
    (owed : progress? state b = some (.more next)) (rest : Bytes) :
    chunksFrom state (b :: rest) = chunksFrom (some next) rest := by
  cases state with
  | none =>
      rw [progress?] at owed
      simp [chunksFrom, owed]
  | some state =>
      rw [progress?] at owed
      simp [chunksFrom, owed]

/-- The reader takes the bytes of a character for this character. -/
theorem Spells.chunksFrom_append {state : Option Partial} {bytes : Bytes} {c : Char}
    (spells : Spells state bytes c) (rest : Bytes) :
    chunksFrom state (bytes ++ rest) = some c :: chunksFrom none rest := by
  induction spells with
  | last done => exact chunksFrom_cons_complete done rest
  | more owed _ ih =>
      rw [List.cons_append, chunksFrom_cons_more owed]
      exact ih

/-- A run that is no text does not begin within the bytes of a character. -/
theorem Spells.badRunFrom_append {state : Option Partial} {bytes : Bytes} {c : Char}
    (spells : Spells state bytes c) (rest : Bytes) (index seen : Nat) :
    ∃ behind, badRunFrom index seen state (bytes ++ rest) = badRunFrom behind 0 none rest := by
  induction spells generalizing index seen with
  | @last state _ _ done =>
      cases state with
      | none =>
          rw [progress?] at done
          exact ⟨index + 1, by simp [badRunFrom, done]⟩
      | some state =>
          rw [progress?] at done
          exact ⟨index + seen + 1, by simp [badRunFrom, done]⟩
  | @more state _ next _ _ owed _ ih =>
      cases state with
      | none =>
          rw [progress?] at owed
          rcases ih index 1 with ⟨behind, same⟩
          exact ⟨behind, by simpa [badRunFrom, owed] using same⟩
      | some state =>
          rw [progress?] at owed
          rcases ih index (seen + 1) with ⟨behind, same⟩
          exact ⟨behind, by simpa [badRunFrom, owed] using same⟩

/-! ## First and later bytes -/

theorem toNat_toUInt8 {n : Nat} (fits : n < 256) : n.toUInt8.toNat = n :=
  UInt8.toNat_ofNat_of_lt' fits

theorem progress?_one {n : Nat} (small : n < 0x80) :
    progress? none n.toUInt8 = some (.complete (Char.ofNat n)) := by
  simp only [progress?, begin?, toNat_toUInt8 (by omega : n < 256), if_pos small]

theorem progress?_two {high : Nat} (least : 2 ≤ high) (most : high < 32) :
    progress? none (0xC0 + high).toUInt8 = some (.more ⟨high, 1, 0x80, 0xBF⟩) := by
  interval_cases high <;> rfl

theorem progress?_three {high : Nat} (most : high < 16) :
    progress? none (0xE0 + high).toUInt8 =
      some (.more ⟨high, 2, if high = 0 then 0xA0 else 0x80,
        if high = 0xD then 0x9F else 0xBF⟩) := by
  interval_cases high <;> rfl

theorem progress?_four {high : Nat} (most : high < 5) :
    progress? none (0xF0 + high).toUInt8 =
      some (.more ⟨high, 3, if high = 0 then 0x90 else 0x80,
        if high = 4 then 0x8F else 0xBF⟩) := by
  interval_cases high <;> rfl

/-- A byte within the bounds adds its six bits. -/
theorem progress?_of_bounds {state : Partial} {low : Nat} (small : low < 64)
    (above : state.low.toNat ≤ 0x80 + low) (below : 0x80 + low ≤ state.high.toNat) :
    progress? (some state) (0x80 + low).toUInt8 =
      if state.owed ≤ 1 then some (.complete (Char.ofNat (state.bits * 64 + low)))
      else some (.more ⟨state.bits * 64 + low, state.owed - 1, 0x80, 0xBF⟩) := by
  have byte : (0x80 + low).toUInt8.toNat = 0x80 + low := toNat_toUInt8 (by omega)
  have within : state.low ≤ (0x80 + low).toUInt8 ∧ (0x80 + low).toUInt8 ≤ state.high := by
    rw [UInt8.le_iff_toNat_le, UInt8.le_iff_toNat_le, byte]
    exact ⟨above, below⟩
  rw [progress?, Partial.extend?, if_pos within, byte, Nat.add_sub_cancel_left]

/-- The last byte that is owed completes the character of all bits. -/
theorem Spells.final {bits n low : Nat} (small : low < 64) (whole : bits * 64 + low = n) :
    Spells (some ⟨bits, 1, 0x80, 0xBF⟩) [(0x80 + low).toUInt8] (Char.ofNat n) := by
  have progress := @progress?_of_bounds ⟨bits, 1, 0x80, 0xBF⟩ low small (Nat.le_add_right _ _)
    (Nat.add_le_add_left (Nat.le_of_lt_succ small) 0x80)
  rw [if_pos (Nat.le_refl 1), whole] at progress
  exact .last progress

/-- A byte before the last one that is owed passes its bits on. -/
theorem Spells.inner {bits owed low : Nat} {least most : UInt8} {bytes : Bytes} {c : Char}
    (small : low < 64) (above : least.toNat ≤ 0x80 + low) (below : 0x80 + low ≤ most.toNat)
    (rest : Spells (some ⟨bits * 64 + low, owed + 1, 0x80, 0xBF⟩) bytes c) :
    Spells (some ⟨bits, owed + 2, least, most⟩) ((0x80 + low).toUInt8 :: bytes) c := by
  have progress := @progress?_of_bounds ⟨bits, owed + 2, least, most⟩ low small above below
  rw [if_neg (by simp)] at progress
  exact .more progress rest

/-- The bytes of a character spell it. -/
theorem spells_encodeChar (c : Char) : Spells none (encodeChar c) c := by
  have valid : c.toNat < 0xD800 ∨ 0xDFFF < c.toNat ∧ c.toNat < 0x110000 := c.valid
  have whole : Char.ofNat c.toNat = c := Char.ofNat_toNat c
  unfold encodeChar
  generalize c.toNat = n at valid whole
  subst whole
  dsimp only
  split
  case isTrue one => exact .last (progress?_one one)
  case isFalse =>
    split
    case isTrue two =>
      have first := @progress?_two (n / 64) (by omega) (by omega)
      exact .more first (.final (by omega) (by omega))
    case isFalse =>
      split
      case isTrue three =>
        have first := @progress?_three (n / 4096) (by omega)
        refine .more first (.inner ?_ ?_ ?_ ?_)
        · omega
        · split <;> simp
          omega
        · split <;> simp <;> omega
        · exact .final (by omega) (by omega)
      case isFalse =>
        have first := @progress?_four (n / 262144) (by omega)
        refine .more first (.inner ?_ ?_ ?_ ?_)
        · omega
        · split <;> simp
          omega
        · split <;> simp <;> omega
        · apply Spells.inner (by omega) (Nat.le_add_right _ _)
          · simp
            omega
          · exact .final (by omega) (by omega)

/-! ## Texts -/

theorem chunksFrom_encodeUtf8 (cs : List Char) : chunksFrom none (encodeUtf8 cs) = cs.map some := by
  induction cs with
  | nil => rfl
  | cons c rest ih =>
      rw [encodeUtf8, List.flatMap_cons, (spells_encodeChar c).chunksFrom_append]
      exact congrArg (some c :: ·) ih

/-- Text that was encoded reads as itself. -/
@[simp]
theorem lossy_encodeUtf8 (cs : List Char) : lossy (encodeUtf8 cs) = cs := by
  simp [lossy, chunks, chunksFrom_encodeUtf8, Function.comp_def]

@[simp]
theorem decodeUtf8?_encodeUtf8 (cs : List Char) : decodeUtf8? (encodeUtf8 cs) = some cs := by
  rw [decodeUtf8?, chunks, chunksFrom_encodeUtf8]
  induction cs with
  | nil => rfl
  | cons c rest ih =>
      rw [List.map_cons, List.mapM_cons, ih]
      rfl

theorem badRunFrom_encodeUtf8 (cs : List Char) (index : Nat) :
    badRunFrom index 0 none (encodeUtf8 cs) = none := by
  induction cs generalizing index with
  | nil => rfl
  | cons c rest ih =>
      rw [encodeUtf8, List.flatMap_cons]
      rcases (spells_encodeChar c).badRunFrom_append (rest.flatMap encodeChar) index 0 with
        ⟨behind, same⟩
      rw [same]
      exact ih behind

/-- Text that was encoded is text throughout. -/
@[simp]
theorem decodeUtf8_encodeUtf8 (cs : List Char) : decodeUtf8 (encodeUtf8 cs) = .ok cs := by
  simp [decodeUtf8, badRunFrom_encodeUtf8]

@[simp]
theorem lossyString_bytesOf (s : String) : lossyString (bytesOf s) = s := by
  simp [lossyString, bytesOf]

/-- Different texts have different bytes. -/
theorem bytesOf_injective {s t : String} (same : bytesOf s = bytesOf t) : s = t := by
  rw [← lossyString_bytesOf s, same, lossyString_bytesOf]

theorem length_encodeChar_le (c : Char) : (encodeChar c).length ≤ 4 := by
  unfold encodeChar
  dsimp only
  split_ifs <;> simp

/-- No character has more than four bytes. -/
theorem length_encodeUtf8_le (cs : List Char) : (encodeUtf8 cs).length ≤ 4 * cs.length := by
  induction cs with
  | nil => exact Nat.le_refl 0
  | cons c rest ih =>
      have first := length_encodeChar_le c
      rw [encodeUtf8, List.flatMap_cons, List.length_append, List.length_cons]
      rw [encodeUtf8] at ih
      omega

/-! ## Bytes that are text -/

/-- A byte that goes on lies within the bounds and adds its bits. -/
theorem Partial.within_of_extend? {state : Partial} {b : UInt8} {progress : Progress}
    (goes : state.extend? b = some progress) :
    (state.low.toNat ≤ b.toNat ∧ b.toNat ≤ state.high.toNat) ∧
      progress = if state.owed ≤ 1 then .complete (Char.ofNat (state.bits * 64 + (b.toNat - 0x80)))
        else .more ⟨state.bits * 64 + (b.toNat - 0x80), state.owed - 1, 0x80, 0xBF⟩ := by
  rw [extend?] at goes
  split at goes
  case isTrue within =>
    rw [UInt8.le_iff_toNat_le, UInt8.le_iff_toNat_le] at within
    refine ⟨within, ?_⟩
    split at goes <;> rename_i owed
    · rw [if_pos owed, Option.some.inj goes]
    · rw [if_neg owed, Option.some.inj goes]
  case isFalse => cases goes

/-- The last byte that is owed completes the character. -/
theorem Spells.eq_final {bits : Nat} {least most : UInt8} {bytes : Bytes} {c : Char}
    (spells : Spells (some ⟨bits, 1, least, most⟩) bytes c) :
    ∃ b : UInt8, bytes = [b] ∧ (least.toNat ≤ b.toNat ∧ b.toNat ≤ most.toNat) ∧
      c = Char.ofNat (bits * 64 + (b.toNat - 0x80)) := by
  cases spells with
  | @last _ b _ done =>
      rcases Partial.within_of_extend? done with ⟨within, same⟩
      rw [if_pos (Nat.le_refl 1), Progress.complete.injEq] at same
      exact ⟨b, rfl, within, same⟩
  | more owed =>
      have same := (Partial.within_of_extend? owed).2
      rw [if_pos (Nat.le_refl 1)] at same
      cases same

/-- A byte before the last one that is owed passes its bits on. -/
theorem Spells.eq_inner {bits owed : Nat} {least most : UInt8} {bytes : Bytes} {c : Char}
    (spells : Spells (some ⟨bits, owed + 2, least, most⟩) bytes c) :
    ∃ (b : UInt8) (rest : Bytes), bytes = b :: rest ∧
      (least.toNat ≤ b.toNat ∧ b.toNat ≤ most.toNat) ∧
      Spells (some ⟨bits * 64 + (b.toNat - 0x80), owed + 1, 0x80, 0xBF⟩) rest c := by
  have unpaid : ¬owed + 2 ≤ 1 := by omega
  cases spells with
  | last done =>
      have same := (Partial.within_of_extend? done).2
      rw [if_neg unpaid] at same
      cases same
  | @more _ b next rest _ passed later =>
      rcases Partial.within_of_extend? passed with ⟨within, same⟩
      rw [if_neg unpaid, Progress.more.injEq] at same
      subst same
      exact ⟨b, rest, rfl, within, later⟩

theorem toUInt8_of_toNat {n : Nat} {b : UInt8} (same : n = b.toNat) : n.toUInt8 = b := by
  subst same
  exact UInt8.ofNat_toNat

theorem toNat_ofNat_of_valid {n : Nat} (valid : n < 0xD800 ∨ 0xDFFF < n ∧ n < 0x110000) :
    (Char.ofNat n).toNat = n := by
  have isValid : n.isValidChar := valid
  rw [Char.ofNat, dif_pos isValid]
  rfl

theorem encodeChar_two {high : Nat} {b d : UInt8} (first : b.toNat = 0xC0 + high)
    (least : 2 ≤ high) (most : high < 32) (second : 0x80 ≤ d.toNat ∧ d.toNat ≤ 0xBF) :
    encodeChar (Char.ofNat (high * 64 + (d.toNat - 0x80))) = [b, d] := by
  rw [encodeChar, toNat_ofNat_of_valid (by omega), if_neg (by omega), if_pos (by omega),
    toUInt8_of_toNat (b := b) (by omega), toUInt8_of_toNat (b := d) (by omega)]

theorem encodeChar_three {high : Nat} {b d e : UInt8} (first : b.toNat = 0xE0 + high)
    (second : 0x80 ≤ d.toNat ∧ d.toNat ≤ 0xBF) (third : 0x80 ≤ e.toNat ∧ e.toNat ≤ 0xBF)
    (most : high < 16) (long : high = 0 → 0xA0 ≤ d.toNat)
    (noSurrogate : high = 0xD → d.toNat ≤ 0x9F) :
    encodeChar (Char.ofNat ((high * 64 + (d.toNat - 0x80)) * 64 + (e.toNat - 0x80))) =
      [b, d, e] := by
  rw [encodeChar, toNat_ofNat_of_valid (by omega), if_neg (by omega), if_neg (by omega),
    if_pos (by omega), toUInt8_of_toNat (b := b) (by omega), toUInt8_of_toNat (b := d) (by omega),
    toUInt8_of_toNat (b := e) (by omega)]

theorem encodeChar_four {high : Nat} {b d e f : UInt8} (first : b.toNat = 0xF0 + high)
    (second : 0x80 ≤ d.toNat ∧ d.toNat ≤ 0xBF) (third : 0x80 ≤ e.toNat ∧ e.toNat ≤ 0xBF)
    (fourth : 0x80 ≤ f.toNat ∧ f.toNat ≤ 0xBF) (most : high < 5)
    (long : high = 0 → 0x90 ≤ d.toNat) (short : high = 4 → d.toNat ≤ 0x8F) :
    encodeChar (Char.ofNat (((high * 64 + (d.toNat - 0x80)) * 64 + (e.toNat - 0x80)) * 64 +
      (f.toNat - 0x80))) = [b, d, e, f] := by
  rw [encodeChar, toNat_ofNat_of_valid (by omega), if_neg (by omega), if_neg (by omega),
    if_neg (by omega), toUInt8_of_toNat (b := b) (by omega), toUInt8_of_toNat (b := d) (by omega),
    toUInt8_of_toNat (b := e) (by omega), toUInt8_of_toNat (b := f) (by omega)]

theorem Spells.encodeChar_eq_three {high : Nat} {b least most : UInt8} {bytes : Bytes} {c : Char}
    (spells : Spells (some ⟨high, 2, least, most⟩) bytes c) (first : b.toNat = 0xE0 + high)
    (small : high < 16) (above : 0x80 ≤ least.toNat) (below : most.toNat ≤ 0xBF)
    (long : high = 0 → 0xA0 ≤ least.toNat) (noSurrogate : high = 0xD → most.toNat ≤ 0x9F) :
    encodeChar c = b :: bytes := by
  rcases spells.eq_inner with ⟨d, rest, rfl, second, later⟩
  rcases later.eq_final with ⟨e, rfl, third, whole⟩
  rw [whole]
  exact encodeChar_three first ⟨above.trans second.1, second.2.trans below⟩
    (by simpa using third) small
    (fun zero => (long zero).trans second.1) fun last => second.2.trans (noSurrogate last)

theorem Spells.encodeChar_eq_four {high : Nat} {b least most : UInt8} {bytes : Bytes} {c : Char}
    (spells : Spells (some ⟨high, 3, least, most⟩) bytes c) (first : b.toNat = 0xF0 + high)
    (small : high < 5) (above : 0x80 ≤ least.toNat) (below : most.toNat ≤ 0xBF)
    (long : high = 0 → 0x90 ≤ least.toNat) (short : high = 4 → most.toNat ≤ 0x8F) :
    encodeChar c = b :: bytes := by
  rcases spells.eq_inner with ⟨d, rest, rfl, second, later⟩
  rcases later.eq_inner with ⟨e, rest, rfl, third, last⟩
  rcases last.eq_final with ⟨f, rfl, fourth, whole⟩
  rw [whole]
  exact encodeChar_four first ⟨above.trans second.1, second.2.trans below⟩
    (by simpa using third) (by simpa using fourth) small
    (fun zero => (long zero).trans second.1) fun last => second.2.trans (short last)

/-- How an encoding of several bytes begins: its first byte tells how many are owed, and the
bounds keep the next one from spelling what is no character. -/
inductive Opening (b : UInt8) : Partial → Prop where
  | two (least : 0xC2 ≤ b.toNat) (most : b.toNat ≤ 0xDF) :
      Opening b ⟨b.toNat - 0xC0, 1, 0x80, 0xBF⟩
  | three {high : Nat} {least most : UInt8} (first : b.toNat = 0xE0 + high) (small : high < 16)
      (above : 0x80 ≤ least.toNat) (below : most.toNat ≤ 0xBF)
      (long : high = 0 → 0xA0 ≤ least.toNat) (noSurrogate : high = 0xD → most.toNat ≤ 0x9F) :
      Opening b ⟨high, 2, least, most⟩
  | four {high : Nat} {least most : UInt8} (first : b.toNat = 0xF0 + high) (small : high < 5)
      (above : 0x80 ≤ least.toNat) (below : most.toNat ≤ 0xBF)
      (long : high = 0 → 0x90 ≤ least.toNat) (short : high = 4 → most.toNat ≤ 0x8F) :
      Opening b ⟨high, 3, least, most⟩

/-- What a first byte makes of an encoding. -/
def Begins (b : UInt8) : Progress → Prop
  | .complete c => b.toNat < 0x80 ∧ c = Char.ofNat b.toNat
  | .more next => Opening b next

/-- The tests on a first byte, in their order. -/
theorem begins_of_begin? {b : UInt8} {progress : Progress} (begins : begin? b = some progress) :
    Begins b progress := by
  rw [begin?] at begins
  by_cases ascii : b.toNat < 0x80
  · rw [if_pos ascii] at begins
    rw [← Option.some.inj begins]
    exact ⟨ascii, rfl⟩
  rw [if_neg ascii] at begins
  by_cases stray : b.toNat < 0xC2
  · rw [if_pos stray] at begins
    cases begins
  rw [if_neg stray] at begins
  by_cases two : b.toNat ≤ 0xDF
  · rw [if_pos two] at begins
    rw [← Option.some.inj begins]
    exact Opening.two (by omega) two
  rw [if_neg two] at begins
  by_cases overlong : b.toNat = 0xE0
  · rw [if_pos overlong] at begins
    rw [← Option.some.inj begins]
    exact Opening.three overlong (by decide) (by decide) (by decide) (fun _ => by decide)
      (by omega)
  rw [if_neg overlong] at begins
  by_cases surrogate : b.toNat = 0xED
  · rw [if_pos surrogate] at begins
    rw [← Option.some.inj begins]
    exact Opening.three surrogate (by decide) (by decide) (by decide) (by omega)
      (fun _ => by decide)
  rw [if_neg surrogate] at begins
  by_cases three : b.toNat ≤ 0xEF
  · rw [if_pos three] at begins
    rw [← Option.some.inj begins]
    exact Opening.three (by omega) (by omega) (by decide) (by decide) (by omega) (by omega)
  rw [if_neg three] at begins
  by_cases overlongFour : b.toNat = 0xF0
  · rw [if_pos overlongFour] at begins
    rw [← Option.some.inj begins]
    exact Opening.four overlongFour (by decide) (by decide) (by decide) (fun _ => by decide)
      (by omega)
  rw [if_neg overlongFour] at begins
  by_cases last : b.toNat = 0xF4
  · rw [if_pos last] at begins
    rw [← Option.some.inj begins]
    exact Opening.four last (by decide) (by decide) (by decide) (by omega) (fun _ => by decide)
  rw [if_neg last] at begins
  by_cases four : b.toNat ≤ 0xF3
  · rw [if_pos four] at begins
    rw [← Option.some.inj begins]
    exact Opening.four (by omega) (by omega) (by decide) (by decide) (by omega) (by omega)
  · rw [if_neg four] at begins
    cases begins

/-- Bytes that complete a character are the bytes of this character. -/
theorem Spells.encodeChar_eq {bytes : Bytes} {c : Char} (spells : Spells none bytes c) :
    encodeChar c = bytes := by
  cases spells with
  | last done =>
      rcases begins_of_begin? done with ⟨small, rfl⟩
      rw [encodeChar, toNat_ofNat_of_valid (by omega), if_pos small, toUInt8_of_toNat rfl]
  | more owed later =>
      cases (begins_of_begin? owed : Opening _ _) with
      | two least most =>
          rcases later.eq_final with ⟨d, rfl, within, whole⟩
          rw [whole]
          exact encodeChar_two (by omega) (by omega) (by omega) (by simpa using within)
      | three first small above below long noSurrogate =>
          exact later.encodeChar_eq_three first small above below long noSurrogate
      | four first small above below long short =>
          exact later.encodeChar_eq_four first small above below long short

/-- A byte that cannot stand where it is begins or ends a run that is no text. -/
theorem none_mem_chunksFrom {state : Option Partial} {b : UInt8}
    (stuck : progress? state b = none) (rest : Bytes) :
    none ∈ chunksFrom state (b :: rest) := by
  cases state with
  | none =>
      rw [progress?] at stuck
      simp [chunksFrom, stuck]
  | some state =>
      rw [progress?] at stuck
      simp only [chunksFrom, Option.bind_some, stuck, Option.isSome_some, if_true]
      split <;> exact List.mem_append_left _ List.mem_cons_self

/-- Bytes that read as characters throughout are the bytes of these characters. Within an
encoding they complete the first of them before. -/
theorem encodeUtf8_of_chunksFrom {bytes : Bytes} {cs : List Char} {state : Option Partial}
    (reads : chunksFrom state bytes = cs.map some) :
    (state = none ∧ encodeUtf8 cs = bytes) ∨
      ∃ front c ds, Spells state front c ∧ cs = c :: ds ∧ front ++ encodeUtf8 ds = bytes := by
  induction bytes generalizing cs state with
  | nil =>
      cases state with
      | none =>
          rw [List.map_eq_nil_iff.mp reads.symm]
          exact .inl ⟨rfl, rfl⟩
      | some state => cases cs <;> cases reads
  | cons b rest ih =>
      cases step : progress? state b with
      | none =>
          have stuck := none_mem_chunksFrom step rest
          rw [reads] at stuck
          simp at stuck
      | some progress =>
          cases progress with
          | complete c =>
              rw [chunksFrom_cons_complete step] at reads
              cases cs with
              | nil => cases reads
              | cons d ds =>
                  rw [List.map_cons, List.cons.injEq, Option.some.injEq] at reads
                  rcases reads with ⟨rfl, later⟩
                  refine .inr ⟨[b], c, ds, .last step, rfl, congrArg (b :: ·) ?_⟩
                  rcases ih later with ⟨-, same⟩ | ⟨front, e, es, spells, rfl, rfl⟩
                  · exact same
                  · rw [encodeUtf8, List.flatMap_cons, spells.encodeChar_eq]
                    rfl
          | more next =>
              rw [chunksFrom_cons_more step] at reads
              rcases ih reads with ⟨same, -⟩ | ⟨front, c, ds, spells, rfl, rfl⟩
              · cases same
              · exact .inr ⟨b :: front, c, ds, .more step spells, rfl, rfl⟩

theorem mapM_id_eq_some_iff {α : Type} {items : List (Option α)} {values : List α} :
    items.mapM id = some values ↔ items = values.map some := by
  induction items generalizing values with
  | nil => cases values <;> simp
  | cons item rest ih =>
      cases values with
      | nil => simp [Option.bind_eq_some_iff]
      | cons value values => simp [Option.bind_eq_some_iff, ih]

/-- Bytes that are text throughout are the bytes of this text. -/
theorem encodeUtf8_of_decodeUtf8? {bytes : Bytes} {cs : List Char}
    (reads : decodeUtf8? bytes = some cs) : encodeUtf8 cs = bytes := by
  rw [decodeUtf8?, mapM_id_eq_some_iff] at reads
  rcases encodeUtf8_of_chunksFrom reads with ⟨-, same⟩ | ⟨front, c, ds, spells, rfl, rfl⟩
  · exact same
  · rw [encodeUtf8, List.flatMap_cons, spells.encodeChar_eq]
    rfl

/-! ## Order -/

theorem compare_cons_eq_lt_iff {a b : UInt8} {x y : Bytes} :
    compare (a :: x) (b :: y) = .lt ↔
      a.toNat < b.toNat ∨ a.toNat = b.toNat ∧ compare x y = .lt := by
  rw [List.compare_cons_cons, Ordering.then_eq_lt, Std.compare_eq_lt,
    Std.LawfulEqOrd.compare_eq_iff_eq, UInt8.lt_iff_toNat_lt, UInt8.toNat_inj]

/-- The bytes of characters differ before they end, and the first difference has the
order of the characters. -/
theorem compare_encodeChar_append {c d : Char} (less : c < d) (x y : Bytes) :
    compare (encodeChar c ++ x) (encodeChar d ++ y) = .lt := by
  have numbers : c.toNat < d.toNat := less
  have last : d.toNat < 0x110000 := by
    have valid : d.toNat < 0xD800 ∨ 0xDFFF < d.toNat ∧ d.toNat < 0x110000 := d.valid
    omega
  unfold encodeChar
  generalize c.toNat = m at numbers
  generalize d.toNat = n at numbers last
  dsimp only
  have twelve : ∀ k : Nat, k / 4096 = k / 64 / 64 := by omega
  have eighteen : ∀ k : Nat, k / 262144 = k / 64 / 64 / 64 := by omega
  -- The first byte of a longer encoding is greater; among equally long ones the bits decide.
  split_ifs <;> simp only [List.cons_append, List.nil_append, compare_cons_eq_lt_iff,
    Nat.toUInt8, UInt8.toNat_ofNat', twelve, eighteen] <;> omega

theorem compare_append_left (front x y : Bytes) :
    compare (front ++ x) (front ++ y) = compare x y := by
  induction front with
  | nil => rfl
  | cons b rest ih =>
      have same : compare b b = .eq := Std.ReflCmp.compare_self
      rw [List.cons_append, List.cons_append, List.compare_cons_cons, same, ih]
      rfl

theorem compare_encodeUtf8_of_lt {cs ds : List Char} (less : cs < ds) :
    compare (encodeUtf8 cs) (encodeUtf8 ds) = .lt := by
  induction less with
  | @nil d rest =>
      have spells := spells_encodeChar d
      rw [encodeUtf8, encodeUtf8, List.flatMap_cons]
      generalize encodeChar d = bytes at spells
      cases spells <;> rfl
  | rel smaller => exact compare_encodeChar_append smaller _ _
  | @cons c _ _ _ ih =>
      rw [encodeUtf8, encodeUtf8, List.flatMap_cons, List.flatMap_cons, compare_append_left]
      exact ih

theorem compare_bytesOf_of_lt {s t : String} (less : s < t) :
    compare (bytesOf s) (bytesOf t) = .lt :=
  compare_encodeUtf8_of_lt (String.lt_iff.mp less)

/-- Texts compare as their bytes do. -/
theorem compare_bytesOf (s t : String) : compare (bytesOf s) (bytesOf t) = compare s t := by
  cases order : compare s t with
  | lt => exact compare_bytesOf_of_lt (compareOfLessAndEq_eq_lt.mp order)
  | eq =>
      rw [Std.LawfulEqOrd.eq_of_compare order]
      exact Std.ReflCmp.compare_self
  | gt =>
      have less : compare t s = .lt := Std.OrientedCmp.lt_of_gt order
      apply Std.OrientedCmp.gt_of_lt
      exact compare_bytesOf_of_lt (compareOfLessAndEq_eq_lt.mp less)

end TopicReplay.Text
