import TopicReplay.Text.Word

/-!
# Reading back words in two's complement

An integer that fits the width of a word is given back by its two's complement, and
every word holds an integer that fits its width.
-/

namespace TopicReplay.Text

@[simp]
theorem length_signedWord (width : Nat) (n : Int) : (signedWord width n).length = width :=
  length_word _ _

/-- The word of an integer holds this integer, if half of the words are enough for
the negative ones and half for the rest. -/
theorem signedWordValue_signedWord {width : Nat} {n : Int}
    (least : -(Nat.pow 256 width : Int) ≤ 2 * n) (most : 2 * n < (Nat.pow 256 width : Int)) :
    signedWordValue (signedWord width n) = n := by
  generalize words : Nat.pow 256 width = count at least most
  have rest_least : 0 ≤ n % (count : Int) := Int.emod_nonneg n (by omega)
  have rest_most : n % (count : Int) < count := Int.emod_lt_of_pos n (by omega)
  have value : wordValue (signedWord width n) = (n % (count : Int)).toNat := by
    rw [signedWord, words]
    exact wordValue_word (by omega)
  simp only [signedWordValue, value, length_signedWord, words]
  by_cases negative : n < 0
  · have rest : n % (count : Int) = n + count := by
      rw [← Int.add_emod_right, Int.emod_eq_of_lt (by omega) (by omega)]
    rw [if_neg (by omega)]
    omega
  · have rest : n % (count : Int) = n := Int.emod_eq_of_lt (by omega) (by omega)
    rw [if_pos (by omega)]
    omega

theorem wordValue_lt (bytes : Bytes) : wordValue bytes < Nat.pow 256 bytes.length := by
  induction bytes with
  | nil => exact Nat.one_pos
  | cons b rest ih =>
      have byte := UInt8.toNat_lt b
      rw [wordValue, List.length_cons, Nat.pow_eq, Nat.pow_succ]
      rw [Nat.pow_eq] at ih
      omega

/-- Half of the words are for the negative integers and half for the rest. -/
theorem signedWordValue_bounds (bytes : Bytes) :
    -(Nat.pow 256 bytes.length : Int) ≤ 2 * signedWordValue bytes ∧
      2 * signedWordValue bytes < (Nat.pow 256 bytes.length : Int) := by
  have small := wordValue_lt bytes
  simp only [signedWordValue]
  generalize Nat.pow 256 bytes.length = count at small
  split <;> omega

end TopicReplay.Text
