import TopicReplay.Text.Utf8

/-!
# Hexadecimal digits

Bytes are written as pairs of hexadecimal digits. An escape names a character by
the hexadecimal digits of its code point. A number that is no code point of a
character, such as half of a surrogate pair, names none.
-/

namespace TopicReplay.Text

/-- The value of a hexadecimal digit, of either case. -/
def hexValue? (c : Char) : Option Nat :=
  if '0' ≤ c ∧ c ≤ '9' then some (c.toNat - 48)
  else if 'a' ≤ c ∧ c ≤ 'f' then some (c.toNat - 87)
  else if 'A' ≤ c ∧ c ≤ 'F' then some (c.toNat - 55)
  else none

/-- The number that so many hexadecimal digits continue `total` to, and the rest. -/
def takeHexFrom (total : Nat) : Nat → List Char → Option (Nat × List Char)
  | 0, cs => some (total, cs)
  | count + 1, c :: cs =>
      match hexValue? c with
      | some digit => takeHexFrom (16 * total + digit) count cs
      | none => none
  | _ + 1, [] => none

/-- The number of so many hexadecimal digits, and the rest. -/
def takeHex (count : Nat) (cs : List Char) : Option (Nat × List Char) := takeHexFrom 0 count cs

/-- The character of a code point. -/
def charOf? (n : Nat) : Option Char := if n.isValidChar then some (Char.ofNat n) else none

/-- The character that so many hexadecimal digits name, and the rest. -/
def takeHexChar (count : Nat) (cs : List Char) : Option (Char × List Char) := do
  let (n, rest) ← takeHex count cs
  return (← charOf? n, rest)

/-- The hexadecimal digits of bytes, in lower case. -/
def hexText (bytes : Bytes) : String :=
  String.ofList (bytes.flatMap fun b =>
    [Nat.digitChar (b.toNat / 16), Nat.digitChar (b.toNat % 16)])

/-- The bytes that pairs of hexadecimal digits stand for. -/
def ofHex? : List Char → Option Bytes
  | [] => some []
  | a :: b :: cs => do
      let high ← hexValue? a
      let low ← hexValue? b
      return (16 * high + low).toUInt8 :: (← ofHex? cs)
  | [_] => none

end TopicReplay.Text
