import TopicReplay.Text.Integer

/-!
# UTF-8

A character has one encoding of one to four bytes. Bytes that are no encoding
are still readable as text: each longest run of bytes that begins an encoding
without completing it, and each byte that begins none, reads as one replacement
character. The length of such a run follows from the range that the byte before
allows for the next one.
-/

namespace TopicReplay.Text

/-- A sequence of bytes. -/
abbrev Bytes := List UInt8

/-- The character that stands for bytes that are no text. -/
def replacement : Char := '\uFFFD'

/-- The bytes of one character. -/
def encodeChar (c : Char) : Bytes :=
  let n := c.toNat
  if n < 0x80 then
    [n.toUInt8]
  else if n < 0x800 then
    [(0xC0 + n / 64).toUInt8, (0x80 + n % 64).toUInt8]
  else if n < 0x10000 then
    [(0xE0 + n / 4096).toUInt8, (0x80 + n / 64 % 64).toUInt8, (0x80 + n % 64).toUInt8]
  else
    [(0xF0 + n / 262144).toUInt8, (0x80 + n / 4096 % 64).toUInt8, (0x80 + n / 64 % 64).toUInt8,
      (0x80 + n % 64).toUInt8]

/-- The bytes of a list of characters. -/
def encodeUtf8 (cs : List Char) : Bytes := cs.flatMap encodeChar

/-- The bytes of a string. -/
def bytesOf (s : String) : Bytes := encodeUtf8 s.toList

/-- An encoding of which the first bytes were read: the bits so far, how many
bytes are owed, and the bounds of the next one. -/
structure Partial where
  bits : Nat
  owed : Nat
  low : UInt8
  high : UInt8
  deriving DecidableEq, Repr

/-- What one more byte makes of an encoding. -/
inductive Progress where
  /-- The byte completes a character. -/
  | complete (c : Char)
  /-- More bytes are owed. -/
  | more (state : Partial)
  deriving Repr

/-- The progress that a first byte makes, if it begins an encoding. The bounds of
the second byte keep out overlong encodings, surrogates and numbers past the last
code point. -/
def begin? (b : UInt8) : Option Progress :=
  let n := b.toNat
  if n < 0x80 then some (.complete (Char.ofNat n))
  else if n < 0xC2 then none
  else if n ≤ 0xDF then some (.more ⟨n - 0xC0, 1, 0x80, 0xBF⟩)
  else if n = 0xE0 then some (.more ⟨0, 2, 0xA0, 0xBF⟩)
  else if n = 0xED then some (.more ⟨0xD, 2, 0x80, 0x9F⟩)
  else if n ≤ 0xEF then some (.more ⟨n - 0xE0, 2, 0x80, 0xBF⟩)
  else if n = 0xF0 then some (.more ⟨0, 3, 0x90, 0xBF⟩)
  else if n = 0xF4 then some (.more ⟨4, 3, 0x80, 0x8F⟩)
  else if n ≤ 0xF3 then some (.more ⟨n - 0xF0, 3, 0x80, 0xBF⟩)
  else none

/-- The progress that a byte makes in an encoding, if it may stand there. -/
def Partial.extend? (state : Partial) (b : UInt8) : Option Progress :=
  if state.low ≤ b ∧ b ≤ state.high then
    let bits := state.bits * 64 + (b.toNat - 0x80)
    if state.owed ≤ 1 then some (.complete (Char.ofNat bits))
    else some (.more ⟨bits, state.owed - 1, 0x80, 0xBF⟩)
  else none

/-- Reads bytes as text, from within an encoding or between two. Bytes that
encode a character give `some` character, and each longest run of bytes that
cannot belong to one gives `none`. -/
def chunksFrom : Option Partial → Bytes → List (Option Char)
  | none, [] => []
  | some _, [] => [none]
  | state, b :: rest =>
      match state.bind fun state => state.extend? b with
      | some (.complete c) => some c :: chunksFrom none rest
      | some (.more next) => chunksFrom (some next) rest
      | none =>
          let cut := if state.isSome then [none] else []
          match begin? b with
          | some (.complete c) => cut ++ some c :: chunksFrom none rest
          | some (.more next) => cut ++ chunksFrom (some next) rest
          | none => cut ++ none :: chunksFrom none rest

/-- The characters of bytes, `none` standing for each run that is no text. -/
def chunks (bytes : Bytes) : List (Option Char) := chunksFrom none bytes

/-- The text of bytes, with a replacement character for each run that is no text. -/
def lossy (bytes : Bytes) : List Char := (chunks bytes).map fun c => c.getD replacement

/-- The text of bytes that are text throughout. -/
def decodeUtf8? (bytes : Bytes) : Option (List Char) := (chunks bytes).mapM id

/-- A run of bytes that is no text: where it begins and how long it is. A run
that only lacks bytes after the last one has no length. -/
structure BadRun where
  index : Nat
  length : Option Nat
  deriving DecidableEq, Repr

/-- The text that tells of a run that is no text. -/
def BadRun.text (run : BadRun) : String :=
  match run.length with
  | some length =>
      "invalid utf-8 sequence of " ++ String.ofList (decimal length) ++ " bytes from index " ++
        String.ofList (decimal run.index)
  | none => "incomplete utf-8 byte sequence from index " ++ String.ofList (decimal run.index)

/-- The first run that is no text, where `seen` bytes of an encoding that begins
at `index` were read before. -/
def badRunFrom (index seen : Nat) : Option Partial → Bytes → Option BadRun
  | none, [] => none
  | some _, [] => some ⟨index, none⟩
  | some state, b :: rest =>
      match state.extend? b with
      | some (.complete _) => badRunFrom (index + seen + 1) 0 none rest
      | some (.more next) => badRunFrom index (seen + 1) (some next) rest
      | none => some ⟨index, some seen⟩
  | none, b :: rest =>
      match begin? b with
      | some (.complete _) => badRunFrom (index + 1) 0 none rest
      | some (.more next) => badRunFrom index 1 (some next) rest
      | none => some ⟨index, some 1⟩

/-- The text of bytes, or the first run of them that is none. -/
def decodeUtf8 (bytes : Bytes) : Except BadRun (List Char) :=
  match badRunFrom 0 0 none bytes with
  | some run => .error run
  | none => .ok (lossy bytes)

/-- The text of bytes as a string, with replacement characters. -/
def lossyString (bytes : Bytes) : String := String.ofList (lossy bytes)

end TopicReplay.Text
