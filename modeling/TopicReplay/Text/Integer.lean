/-!
# Integers in decimal

An integer is written in base ten with a minus sign when it is negative. The
readers accept what the writers produce, and also leading zeros and a plus sign;
they refuse every character that is not an ASCII digit.
-/

namespace TopicReplay.Text

/-- The value of an ASCII digit. -/
def digitValue? (c : Char) : Option Nat :=
  if '0' ≤ c ∧ c ≤ '9' then some (c.toNat - '0'.toNat) else none

/-- Whether a character is an ASCII digit. -/
def isDigit (c : Char) : Bool := '0' ≤ c && c ≤ '9'

/-- The number that a run of digits continues `total` to. -/
def digitsFrom (total : Nat) : List Char → Option Nat
  | [] => some total
  | c :: rest =>
      match digitValue? c with
      | some digit => digitsFrom (10 * total + digit) rest
      | none => none

/-- The number of a run of digits that is not empty. -/
def digits? : List Char → Option Nat
  | [] => none
  | cs => digitsFrom 0 cs

/-- An unsigned integer, with a plus sign allowed. -/
def unsigned? : List Char → Option Nat
  | '+' :: cs => digits? cs
  | cs => digits? cs

/-- A signed integer in decimal. -/
def signed? : List Char → Option Int
  | '-' :: cs => (digits? cs).map fun n => -(n : Int)
  | cs => (unsigned? cs).map Int.ofNat

/-- The least integer of 64 bits. -/
def minInt64 : Int := -9223372036854775808

/-- The greatest integer of 64 bits. -/
def maxInt64 : Int := 9223372036854775807

/-- The least integer of 32 bits. -/
def minInt32 : Int := -2147483648

/-- The greatest integer of 32 bits. -/
def maxInt32 : Int := 2147483647

/-- The greatest unsigned integer of 64 bits. -/
def maxUInt64 : Nat := 18446744073709551615

/-- A signed integer that fits 64 bits. -/
def int64? (cs : List Char) : Option Int :=
  (signed? cs).filter fun n => minInt64 ≤ n ∧ n ≤ maxInt64

/-- A signed integer that fits 32 bits. -/
def int32? (cs : List Char) : Option Int :=
  (signed? cs).filter fun n => minInt32 ≤ n ∧ n ≤ maxInt32

/-- An unsigned integer that fits 64 bits. -/
def uint64? (cs : List Char) : Option Nat := (unsigned? cs).filter fun n => n ≤ maxUInt64

/-- The digits of a natural number, without leading zeros. -/
def decimal (n : Nat) : List Char := Nat.toDigits 10 n

/-- The decimal text of an integer. -/
def integer : Int → List Char
  | .ofNat n => decimal n
  | .negSucc n => '-' :: decimal (n + 1)

/-- The decimal text of an integer, as a string. -/
def integerString (n : Int) : String := String.ofList (integer n)

/-- The decimal text of a natural number, as a string. -/
def decimalString (n : Nat) : String := String.ofList (decimal n)

/-- The digits of a natural number, filled with zeros to a least width. -/
def padded (width n : Nat) : List Char :=
  List.replicate (width - (decimal n).length) '0' ++ decimal n

end TopicReplay.Text
