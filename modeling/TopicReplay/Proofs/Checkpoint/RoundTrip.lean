import TopicReplay.Proofs.Checkpoint.Grammar
import TopicReplay.Proofs.Time.Spelling

/-!
# Reading back checkpoints

The text of a checkpoint names this checkpoint, and so do the other spellings of its instant.
No other way of writing checkpoints takes such a text, since no two of them share one.

The main statement is `parse_undoes_display`.
-/

namespace TopicReplay.Checkpoint

open Text (EndsVisible maxInt32 maxInt64 trim trimLeft)
open Time (Spelling)

/-- A checkpoint that expressions name: an offset is one of 64 bits and not negative, and the
year of an instant has four digits. -/
inductive Writable : Checkpoint → Prop where
  | oldest : Writable .oldest
  | newest : Writable .newest
  | stored : Writable .stored
  | offset {n : Int} (nonneg : 0 ≤ n) (fits : n ≤ maxInt64) : Writable (.offset n)
  | time {t : Instant} (least : 0 ≤ t.toCivil.date.year) (most : t.toCivil.date.year ≤ 9999) :
      Writable (.time t)

section Texts

variable {t : Instant} {cs : List Char} {checkpoint : Checkpoint}

/-- Every spelling of an instant is read as the instant. -/
theorem parse_spelling (least : 0 ≤ t.toCivil.date.year) (most : t.toCivil.date.year ≤ 9999)
    (spelling : Spelling t cs) (isStop : Bool) :
    parse (String.ofList cs) isStop = .ok (.time t) := by
  rcases spelling.exists_read least most with ⟨layout, member, read⟩
  have known : Way.dated layout ∈ ways :=
    List.mem_cons_of_mem _ (List.mem_cons_of_mem _ (List.mem_map_of_mem member))
  have text : trim (String.ofList cs).toList = cs := by
    rw [String.toList_ofList, spelling.trim_eq]
  have reads : ofText (trim (String.ofList cs).toList) = .ok (.time t) := by
    rw [text]
    exact ofText_eq_ok_iff.mpr ⟨.dated layout, known, .time read⟩
  rw [parse_of_ofText reads]
  simp [canStop]

/-- The text of an instant is its spelling in RFC 3339 without an offset from UTC. -/
theorem spelling_display (least : 0 ≤ t.toCivil.date.year) (most : t.toCivil.date.year ≤ 9999) :
    Spelling t t.display.toList := by
  have text : t.display.toList =
      (t.toLocal (0 * 60)).secondText 'T' ++ Time.offsetText 0 := by
    rw [Instant.display, String.toList_ofList, Int.zero_mul, Instant.toLocal_zero,
      Time.Civil.secondText_eq_text]
    rfl
  rw [text]
  have same : t.toLocal (0 * 60) = t.toCivil := by rw [Int.zero_mul, Instant.toLocal_zero]
  refine .zoned (by decide) ?_ ?_ (by decide)
  · rwa [same]
  · rwa [same]

/-- The digits of an integer have no white space around them. -/
theorem trim_integer (n : Int) : trim (Text.integer n) = Text.integer n :=
  Text.trim_eq_of_forall fun _ => Time.isBlank_of_mem_integer

/-- Reading undoes writing. -/
theorem parse_display (writable : Writable checkpoint) :
    parse checkpoint.display false = .ok checkpoint := by
  rw [parse_false_eq_ok_iff]
  cases writable with
  | oldest => rfl
  | newest => rfl
  | stored => rfl
  | @offset n nonneg fits =>
      have text : trim (display (.offset n)).toList = Text.integer n := by
        rw [display, Text.integerString, String.toList_ofList, trim_integer]
      rw [text]
      exact ofText_eq_ok_iff.mpr
        ⟨.number, by decide, .offset (Text.denotes_integer n) nonneg fits⟩
  | @time t least most =>
      have read := parse_spelling least most (spelling_display least most) false
      rw [String.ofList_toList] at read
      exact parse_false_eq_ok_iff.mp read

end Texts

end TopicReplay.Checkpoint

namespace TopicReplay

open Checkpoint (Writable parse)
open Selection (parseToken)
open Time (Spelling)

/-- Behind the number of a partition the text of a checkpoint is read as well. -/
theorem Selection.parseToken_display {checkpoint : Checkpoint} (writable : Writable checkpoint)
    {number : Int} (nonneg : 0 ≤ number) (fits : number ≤ Text.maxInt32) :
    parseToken (Text.integerString number ++ "#" ++ checkpoint.display) false =
      .ok (.partition number, checkpoint) := by
  have split : (Text.integerString number ++ "#" ++ checkpoint.display).toList =
      Text.integer number ++ '#' :: checkpoint.display.toList := by
    simp [Text.integerString]
  have first : '#' ∉ Text.integer number := fun member => by
    rcases Text.mem_integer member with same | digit
    · exact absurd same (by decide)
    · exact absurd digit (by decide)
  have denotes : Text.Denotes (Text.trim (Text.integer number)) number := by
    rw [Checkpoint.trim_integer]
    exact Text.denotes_integer number
  have reads : parse (String.ofList checkpoint.display.toList) false = .ok checkpoint := by
    rw [String.ofList_toList]
    exact Checkpoint.parse_display writable
  exact parseToken_eq_ok_iff.mpr (.partition split first denotes nonneg fits reads)

/-- Every spelling of an instant is read as the instant, and reading undoes writing. -/
theorem parse_undoes_display :
    (∀ t : Instant, 0 ≤ t.toCivil.date.year → t.toCivil.date.year ≤ 9999 →
      ∀ cs, Spelling t cs → ∀ isStop, parse (String.ofList cs) isStop = .ok (.time t)) ∧
    (∀ checkpoint, Writable checkpoint → parse checkpoint.display false = .ok checkpoint ∧
      ∀ number, 0 ≤ number → number ≤ Text.maxInt32 →
        parseToken (Text.integerString number ++ "#" ++ checkpoint.display) false =
          .ok (.partition number, checkpoint)) := by
  refine ⟨fun t least most cs spelling isStop =>
    Checkpoint.parse_spelling least most spelling isStop, fun checkpoint writable => ⟨?_, ?_⟩⟩
  · exact Checkpoint.parse_display writable
  · intro number nonneg fits
    exact Selection.parseToken_display writable nonneg fits

/-- The middle of the leap second at the end of 2016. -/
def leapSecond : Instant := ⟨1483228799, 1500000000, by decide⟩

/-- A clock that already shows the next year means the leap second too. -/
theorem parse_undoes_display_leap :
    parse "2017-01-01T05:29:60.500+05:30" true = .ok (.time leapSecond) ∧
      parseToken "3#2016-12-31T23:59:60.500+00:00" false =
        .ok (.partition 3, .time leapSecond) := by
  rcases parse_undoes_display with ⟨spellings, texts⟩
  have ahead : Spelling leapSecond "2017-01-01T05:29:60.500+05:30".toList :=
    @Spelling.zoned leapSecond 330 'T' (by decide) (by decide) (by decide) (by decide)
  have read := spellings leapSecond (by decide) (by decide) _ ahead true
  have writable : Writable (.time leapSecond) := .time (by decide) (by decide)
  have token := (texts _ writable).2 3 (by decide) (by decide)
  have text : Text.integerString 3 ++ "#" ++ (Checkpoint.time leapSecond).display =
      "3#2016-12-31T23:59:60.500+00:00" := by decide
  rw [String.ofList_toList] at read
  rw [text] at token
  exact ⟨read, token⟩

end TopicReplay
