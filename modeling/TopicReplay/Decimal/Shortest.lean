import TopicReplay.Text.Integer

/-!
# Shortest decimals

A number of double precision is written with the fewest digits that read back as
the same number, and among those with the digits nearest to it. All decimals
between the halfway points to the two neighbouring numbers read back, the halfway
points themselves where the significand is even.
-/

namespace TopicReplay.Decimal

/-- A finite number that is not negative: `significand * 2 ^ exponent`, where
`least` tells that the number below it is half as far away as the one above. -/
structure Binary where
  significand : Nat
  exponent : Int
  least : Bool
  deriving DecidableEq, Repr

/-- The parts of a finite number of double precision, without its sign. -/
def Binary.ofFloat (x : Float) : Binary :=
  let bits := x.toBits.toNat
  let mantissa : Nat := bits % Nat.pow 2 52
  let power : Nat := bits / Nat.pow 2 52 % Nat.pow 2 11
  if power = 0 then ⟨mantissa, -1074, false⟩
  else ⟨mantissa + Nat.pow 2 52, (power : Int) - 1075, mantissa == 0 && 1 < power⟩

/-- A quotient of natural numbers. -/
structure Ratio where
  numerator : Nat
  denominator : Nat
  deriving DecidableEq, Repr

/-- A number times two to a power, as a quotient. -/
def Ratio.scaled (n : Nat) (power : Int) : Ratio :=
  if 0 ≤ power then ⟨n * Nat.pow 2 power.toNat, 1⟩ else ⟨n, Nat.pow 2 (-power).toNat⟩

/-- Whether a quotient is less than another. -/
def Ratio.less (a b : Ratio) : Bool := a.numerator * b.denominator < b.numerator * a.denominator

/-- Digits with the power of ten of the last one. -/
structure Digits where
  value : Nat
  power : Int
  deriving DecidableEq, Repr

/-- The number that digits stand for. -/
def Digits.ratio (digits : Digits) : Ratio :=
  if 0 ≤ digits.power then ⟨digits.value * Nat.pow 10 digits.power.toNat, 1⟩
  else ⟨digits.value, Nat.pow 10 (-digits.power).toNat⟩

/-- Four times the number, and the halfway points below and above it. -/
def Binary.quarters (x : Binary) : Nat × Nat × Nat :=
  (4 * x.significand, 4 * x.significand - (if x.least then 1 else 2), 4 * x.significand + 2)

/-- Whether digits read back as the number. -/
def Binary.readsBack (x : Binary) (digits : Digits) : Bool :=
  let (_, low, high) := x.quarters
  let low := Ratio.scaled low (x.exponent - 2)
  let high := Ratio.scaled high (x.exponent - 2)
  if x.significand % 2 = 0 then !digits.ratio.less low && !high.less digits.ratio
  else low.less digits.ratio && digits.ratio.less high

/-- How many digits the whole part of a quotient has; for one below 1, the count of
zeros after the point, negated. -/
def Ratio.magnitude (x : Ratio) : Int :=
  let whole := x.numerator / x.denominator
  if whole ≠ 0 then (Text.decimal whole).length
  else
    let inverse := (x.denominator - 1) / x.numerator
    1 - (Text.decimal inverse).length

/-- The two neighbours of a number among the multiples of a power of ten, the nearer first. -/
def Ratio.neighbours (x : Ratio) (power : Int) : List Digits :=
  let scaled : Ratio :=
    if 0 ≤ power then ⟨x.numerator, x.denominator * Nat.pow 10 power.toNat⟩
    else ⟨x.numerator * Nat.pow 10 (-power).toNat, x.denominator⟩
  let below := scaled.numerator / scaled.denominator
  let rest := scaled.numerator % scaled.denominator
  let nearBelow :=
    2 * rest < scaled.denominator || 2 * rest == scaled.denominator && below % 2 == 0
  if nearBelow then [⟨below, power⟩, ⟨below + 1, power⟩]
  else [⟨below + 1, power⟩, ⟨below, power⟩]

/-- The shortest digits that read back as a number that is not zero. -/
def Binary.shortest (x : Binary) : Digits :=
  let exact := Ratio.scaled x.significand x.exponent
  let grids := (List.range 17).map fun n => exact.magnitude - (n + 1 : Nat)
  let candidates := grids.flatMap exact.neighbours
  (candidates.find? x.readsBack).getD ⟨0, 0⟩

/-- Digits with a point and at least one digit on each side of it. -/
def Digits.positional (digits : Digits) : String :=
  if 0 ≤ digits.power then
    String.ofList (Text.decimal (digits.value * Nat.pow 10 digits.power.toNat) ++ ['.', '0'])
  else
    let places := (-digits.power).toNat
    let run := Text.padded (places + 1) digits.value
    String.ofList (run.take (run.length - places) ++ '.' :: run.drop (run.length - places))

/-- The shortest text of a finite number that is not negative. -/
def shortest (x : Float) : String :=
  let binary := Binary.ofFloat x
  if binary.significand = 0 then "0.0" else binary.shortest.positional

end TopicReplay.Decimal
