import TopicReplay.Text.Integer

/-!
# Decimal numerals

A decimal numeral is a run of digits that may have a sign, a point and an exponent
to ten. It stands for a whole number of some power of ten.
-/

namespace TopicReplay.Decimal

open Text (isDigit digitsFrom)

/-- The number `mantissa · 10 ^ exponent`, or its negative. -/
structure Numeral where
  negative : Bool
  mantissa : Nat
  exponent : Int
  deriving DecidableEq, Repr

namespace Numeral

/-- Splits off a sign. -/
def takeSign : List Char → Bool × List Char
  | '-' :: cs => (true, cs)
  | '+' :: cs => (false, cs)
  | cs => (false, cs)

/-- The exponent at the end of a numeral, which is zero if there is none. -/
def exponent? : List Char → Option Int
  | [] => some 0
  | c :: cs => if c = 'e' ∨ c = 'E' then Text.signed? cs else none

/-- Reads a numeral. There is a digit before the point or behind it. -/
def parse? (cs : List Char) : Option Numeral := do
  let (negative, cs) := takeSign cs
  let (whole, cs) := cs.span isDigit
  let (fraction, cs) :=
    match cs with
    | '.' :: cs => cs.span isDigit
    | cs => ([], cs)
  if whole.isEmpty && fraction.isEmpty then none
  else
    let exponent ← exponent? cs
    let mantissa ← digitsFrom 0 (whole ++ fraction)
    return ⟨negative, mantissa, exponent - fraction.length⟩

/-- The least number that a double of 64 bits is too small for: half a step above
the greatest one. -/
def tooGreat : Nat := (Nat.pow 2 54 - 1) * Nat.pow 2 970

/-- Whether a numeral has a finite double nearest to it. The number of its digits
settles all but a few cases. -/
def isFinite (numeral : Numeral) : Bool :=
  let size : Int := (Text.decimal numeral.mantissa).length + numeral.exponent
  if numeral.mantissa = 0 ∨ size ≤ 308 then true
  else if 310 ≤ size then false
  else if 0 ≤ numeral.exponent then
    numeral.mantissa * Nat.pow 10 numeral.exponent.toNat < tooGreat
  else numeral.mantissa < tooGreat * Nat.pow 10 (-numeral.exponent).toNat

end Numeral

end TopicReplay.Decimal
