import TopicReplay.Text.Utf8

/-!
# Words

A word is a fixed number of bytes that stand for an integer, the lowest byte
first. Negative integers are written as their two's complement.
-/

namespace TopicReplay.Text

/-- The `width` lowest bytes of a number, the lowest first. -/
def word : Nat → Nat → Bytes
  | 0, _ => []
  | width + 1, n => (n % 256).toUInt8 :: word width (n / 256)

/-- The number of a word. -/
def wordValue : Bytes → Nat
  | [] => 0
  | b :: rest => b.toNat + 256 * wordValue rest

/-- The word of an integer, in two's complement. -/
def signedWord (width : Nat) (n : Int) : Bytes := 
  word width (n % (Nat.pow 256 width : Nat)).toNat

/-- The integer that a word holds in two's complement. -/
def signedWordValue (bytes : Bytes) : Int :=
  let n := wordValue bytes
  let count := Nat.pow 256 bytes.length
  if 2 * n < count then n else (n : Int) - count

@[simp]
theorem length_word (width n : Nat) : (word width n).length = width := by
  induction width generalizing n with
  | zero => rfl
  | succ width ih => simp [word, ih]

theorem wordValue_word {width n : Nat} (fits : n < Nat.pow 256 width) :
    wordValue (word width n) = n := by
  induction width generalizing n with
  | zero =>
      rw [Nat.pow_eq, Nat.pow_zero] at fits
      rw [word, wordValue]
      omega
  | succ width ih =>
      have lower : n % 256 < 256 := Nat.mod_lt n (by decide)
      have upper : n / 256 < Nat.pow 256 width := by
        rw [Nat.pow_eq, Nat.pow_succ] at fits
        exact Nat.div_lt_of_lt_mul (by rwa [Nat.pow_eq, Nat.mul_comm])
      rw [word, wordValue, ih upper, UInt8.toNat_ofNat_of_lt' (by simpa using lower)]
      omega

end TopicReplay.Text
