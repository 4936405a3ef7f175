import TopicReplay.Decimal.Numeral
import TopicReplay.Json.Value
import TopicReplay.Text.Hex

/-!
# YAML scalars

A scalar is a text that was written plainly or in some other style. A plain one
means a number, a truth value or nothing if it has the form of one, and all others
mean their text. A tag says what is meant and fails if the text is not of that
form.
-/

namespace TopicReplay.Yaml

/-- A scalar as it was written. -/
structure Scalar where
  text : List Char
  /-- Whether it was written without quotes or a block header. -/
  plain : Bool
  deriving DecidableEq, Repr

namespace Scalar

/-- The texts that mean nothing. -/
def nulls : List String := ["null", "Null", "NULL", "~"]

/-- The texts that are true. -/
def trues : List String := ["true", "True", "TRUE"]

/-- The texts that are false. -/
def falses : List String := ["false", "False", "FALSE"]

/-- The truth value of a text. -/
def bool? (cs : List Char) : Option Bool :=
  let s := String.ofList cs
  if s ∈ trues then some true else if s ∈ falses then some false else none

/-- The number of a run of digits to a base, of which there is at least one. -/
def digits? (base : Nat) (cs : List Char) : Option Nat :=
  if cs.isEmpty then none
  else
    cs.foldlM (fun total c => do
      let digit ← Text.hexValue? c
      if digit < base then some (base * total + digit) else none) 0

/-- The number of digits behind a mark for their base. -/
def based? : List Char → Option Nat
  | '0' :: 'x' :: cs => digits? 16 cs
  | '0' :: 'o' :: cs => digits? 8 cs
  | '0' :: 'b' :: cs => digits? 2 cs
  | _ => none

/-- Whether a text is a run of digits, perhaps with a sign, that begins with a zero
and goes on. It is no number. -/
def hasSpareZero (cs : List Char) : Bool :=
  let (_, cs) := Decimal.Numeral.takeSign cs
  cs.head? == some '0' && 1 < cs.length && cs.all Text.isDigit

/-- The whole number that a text without sign stands for. -/
def natural? (cs : List Char) : Option Nat :=
  (based? cs).or (if hasSpareZero cs then none else digits? 10 cs)

/-- The greatest unsigned integer of 128 bits. -/
def maxUInt128 : Nat := Nat.pow 2 128 - 1

/-- The least integer of 128 bits, without its sign. -/
def minInt128 : Nat := Nat.pow 2 127

/-- The whole number that a text stands for, if it fits 128 bits. -/
def int? : List Char → Option Int
  | '-' :: cs => ((natural? cs).filter (· ≤ minInt128)).map fun n => -(n : Int)
  | '+' :: cs => ((natural? cs).filter (· ≤ maxUInt128)).map Int.ofNat
  | cs => ((natural? cs).filter (· ≤ maxUInt128)).map Int.ofNat

/-- The texts of numbers that are not finite. -/
def extremes : List String :=
  [".inf", ".Inf", ".INF", "+.inf", "+.Inf", "+.INF", "-.inf", "-.Inf", "-.INF", ".nan", ".NaN",
    ".NAN"]

/-- Whether a text stands for a number that need not be whole. -/
def isReal (cs : List Char) : Bool :=
  String.ofList cs ∈ extremes || (Decimal.Numeral.parse? cs).any Decimal.Numeral.isFinite

/-- The meaning of a plain scalar. -/
def plainValue (cs : List Char) : Json :=
  if cs.isEmpty || String.ofList cs ∈ nulls then .null
  else
    match bool? cs, int? cs with
    | some b, _ => .bool b
    | none, some n => .int n
    | none, none =>
        if !hasSpareZero cs && isReal cs then .real (String.ofList cs)
        else .string (String.ofList cs)

/-- The meaning of a scalar without a tag. -/
def value (scalar : Scalar) : Json :=
  if scalar.plain then plainValue scalar.text else .string (String.ofList scalar.text)

/-- The meaning of a scalar with a tag, which is none of the format's own if it does
not begin with two marks. -/
def tagged? (tag : String) (scalar : Scalar) : Option Json :=
  match tag with
  | "!!bool" => (bool? scalar.text).map .bool
  | "!!int" => (int? scalar.text).map .int
  | "!!float" => if isReal scalar.text then some (.real (String.ofList scalar.text)) else none
  | "!!null" => if String.ofList scalar.text ∈ nulls then some .null else none
  | tag => if tag.startsWith "!!" then some (.string (String.ofList scalar.text)) else none

/-- The meaning of a scalar. -/
def resolve? (tag : Option String) (scalar : Scalar) : Option Json :=
  match tag with
  | some tag => scalar.tagged? tag
  | none => some scalar.value

end Scalar

end TopicReplay.Yaml
