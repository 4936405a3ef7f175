import Mathlib.Data.List.Infix
import TopicReplay.Proofs.Store.Record
import TopicReplay.Store.Tree

/-!
# The binary form of records

The binary form of a record ends by itself: what follows it is passed over, and bytes
that break off within it are refused. So no form is the beginning of another one. That
a form is read to its end follows part by part, since every part is read back whatever
follows it and is refused when it breaks off.

The main statement is `decode_encode_exact`.
-/

namespace TopicReplay.Store.TopicRecord

open Text (Bytes word wordValue signedWord signedWordValue)

/-! ## Bytes that break off -/

/-- A reader refuses all bytes that break off within `front`. -/
def NeedsAll {α : Type} (read : Bytes → Except RecordFault α) (front : Bytes) : Prop :=
  ∀ part missing, part ++ missing = front → missing ≠ [] → ∃ fault, read part = .error fault

theorem needsAll_nil {α : Type} (read : Bytes → Except RecordFault α) : NeedsAll read [] := by
  intro part missing whole lacks
  exact absurd (List.append_eq_nil_iff.mp whole).2 lacks

/-- What is done with the result of a reader does not matter. -/
theorem NeedsAll.andThen {α β : Type} {read : Bytes → Except RecordFault α} {front : Bytes}
    (needs : NeedsAll read front) (next : α → Except RecordFault β) :
    NeedsAll (fun bytes => read bytes >>= next) front := by
  intro part missing whole lacks
  rcases needs part missing whole lacks with ⟨fault, refused⟩
  refine ⟨fault, ?_⟩
  dsimp only
  rw [refused]
  rfl

/-- Two readers one after the other refuse what breaks off within the two things they read. -/
theorem NeedsAll.bind {α β : Type} {first : Bytes → Except RecordFault (α × Bytes)}
    {next : α × Bytes → Except RecordFault β} {front behind : Bytes} {value : α}
    (needs : NeedsAll first front) (reads : ∀ rest, first (front ++ rest) = .ok (value, rest))
    (needsNext : NeedsAll (fun rest => next (value, rest)) behind) :
    NeedsAll (fun bytes => first bytes >>= next) (front ++ behind) := by
  have beyond (tail missing : Bytes) (whole : tail ++ missing = behind) (lacks : missing ≠ []) :
      ∃ fault, first (front ++ tail) >>= next = .error fault := by
    rw [reads]
    exact needsNext tail missing whole lacks
  intro part missing whole lacks
  rcases List.append_eq_append_iff.mp whole with ⟨tail, rfl, rfl⟩ | ⟨tail, rfl, rfl⟩
  · cases tail with
    | nil =>
        rw [List.append_nil] at beyond
        simpa using beyond [] behind rfl lacks
    | cons b tail => exact needs.andThen next part (b :: tail) rfl (List.cons_ne_nil _ _)
  · exact beyond tail missing rfl lacks

theorem needsAll_takeBytes {front : Bytes} {count : Nat} (length : front.length = count) :
    NeedsAll (takeBytes count) front := by
  intro part missing whole lacks
  have short : (part.take count).length < count := by
    have positive := List.length_pos_of_ne_nil lacks
    rw [← length, ← whole, List.length_take, List.length_append]
    omega
  exact ⟨.truncated, if_pos short⟩

/-! ## The parts of a record -/

theorem needsAll_decodeEntries {entries : List (Int × Int)}
    (fits : ∀ entry ∈ entries, Storable entry.1 entry.2) (offsets : OrderedMap Int Int) :
    NeedsAll (decodeEntries entries.length offsets) (entries.flatMap encodeEntry) := by
  induction entries generalizing offsets with
  | nil => exact needsAll_nil _
  | cons entry entries ih =>
      have storable := fits entry List.mem_cons_self
      have others : ∀ entry ∈ entries, Storable entry.1 entry.2 := fun entry member =>
        fits entry (List.mem_cons_of_mem _ member)
      rw [List.flatMap_cons, encodeEntry, List.append_assoc]
      apply (needsAll_takeBytes (Text.length_signedWord 4 entry.1)).bind
        (takeBytes_signedWord 4 entry.1)
      apply (needsAll_takeBytes (Text.length_signedWord 8 entry.2)).bind
        (takeBytes_signedWord 8 entry.2)
      simp only [signedWordValue_partition storable, signedWordValue_offset storable]
      exact ih others _

theorem needsAll_decodeStamp (stamp : Option Instant) :
    NeedsAll decodeStamp (encodeStamp stamp) := by
  have tag (b : UInt8) : NeedsAll (takeBytes 1) [b] := needsAll_takeBytes rfl
  cases stamp with
  | none => exact (tag 0).bind (takeBytes_append [0]) (needsAll_nil _)
  | some t =>
      have short := length_stampText_lt t
      rw [encodeStamp]
      generalize Text.encodeUtf8 (t.text .shortest .letter) = text at short
      apply (tag 1).bind (takeBytes_append [1])
      apply (needsAll_takeBytes (Text.length_word 8 text.length)).bind
        (takeBytes_word 8 text.length)
      -- The text is shorter than the number in front of it says.
      intro part missing whole lacks
      have positive := List.length_pos_of_ne_nil lacks
      have breaks : (part.take text.length).length < text.length := by
        rw [← whole, List.length_take, List.length_append]
        omega
      refine ⟨.io "", ?_⟩
      simp only [Text.wordValue_word short, if_pos breaks]
      rfl

theorem needsAll_decode {record : TopicRecord} (fits : record.Fits) :
    NeedsAll decode record.encode := by
  have entries : ∀ entry ∈ record.offsets.toList, Storable entry.1 entry.2 := fun entry member =>
    fits entry.1 entry.2 (OrderedMap.mem_toList_iff.mp member)
  have count : wordValue (word 8 record.offsets.size) = record.offsets.toList.length :=
    Text.wordValue_word fits.size_lt
  rw [encode, List.append_assoc]
  apply (needsAll_takeBytes (Text.length_word 8 _)).bind (takeBytes_word 8 _)
  simp only [count]
  apply (needsAll_decodeEntries entries .empty).bind (decodeEntries_append entries .empty)
  dsimp only
  exact (needsAll_decodeStamp record.updatedAt).andThen _

/-! ## Whole records -/

/-- The binary form of a record is read back whatever follows it, and bytes that break off
within it are refused. A form that another one begins with is this other one and belongs to
the same record. Whatever bytes a record is read from, its form is read as this record. -/
theorem decode_encode_exact {record : TopicRecord} (fits : record.Fits) :
    (∀ rest, TreeStore.decode (record.encode ++ rest) = .ok record) ∧
      (∀ part, part <+: record.encode → part ≠ record.encode →
        ∃ details, TreeStore.decode part = .error (.serialization details)) ∧
      (∀ other : TopicRecord, other.Fits → record.encode = other.encode → record = other) ∧
      (∀ other : TopicRecord, other.Fits → record.encode <+: other.encode →
        record.encode = other.encode) ∧
      ∀ bytes found, TreeStore.decode bytes = .ok found →
        TreeStore.decode found.encode = .ok found := by
  have whole {record : TopicRecord} (fits : record.Fits) (rest : Bytes) :
      TreeStore.decode (record.encode ++ rest) = .ok record := by
    rw [TreeStore.decode, decode_encode_append fits]
    rfl
  have unique {other : TopicRecord} (others : other.Fits)
      (begins : record.encode <+: other.encode) : record = other := by
    rcases begins with ⟨rest, form_eq⟩
    have here := whole fits rest
    have there := whole others []
    rw [List.append_nil, ← form_eq, here] at there
    exact Except.ok.inj there
  refine ⟨whole fits, ?_, ?_, ?_, ?_⟩
  · rintro part ⟨missing, form_eq⟩ shorter
    have lacks : missing ≠ [] := by
      rintro rfl
      exact shorter (by rwa [List.append_nil] at form_eq)
    rcases needsAll_decode fits part missing form_eq lacks with ⟨fault, refused⟩
    refine ⟨fault.text, ?_⟩
    rw [TreeStore.decode, refused]
    rfl
  · intro other others form_eq
    exact unique others (form_eq ▸ List.prefix_refl _)
  · intro other others begins
    rw [unique others begins]
  · intro bytes found read
    have read : decode bytes = .ok found := by
      rw [TreeStore.decode] at read
      cases outcome : decode bytes with
      | ok record => simpa [outcome, Except.mapError] using read
      | error fault => simp [outcome, Except.mapError] at read
    have again := whole (fits_of_decode read) []
    rwa [List.append_nil] at again

/-- A record of the least partition and the greatest offset, written in the leap second at the end
of what is representable. It is read back with a byte behind it and refused without its last byte,
and its form does not begin the one without a time. The latter record is also read from other
bytes, where the partitions descend. -/
theorem decode_encode_exact_extreme :
    ∃ record other : TopicRecord,
      record.get? (-2147483648) = some 9223372036854775807 ∧
        record.updatedAt.map (·.canonical) = some "+262142-12-31T23:59:60.999999999Z" ∧
        TreeStore.decode (record.encode ++ [0]) = .ok record ∧
        (∃ details, TreeStore.decode record.encode.dropLast = .error (.serialization details)) ∧
        ¬record.encode <+: other.encode ∧
        ∃ bytes, bytes ≠ ({ record with updatedAt := none } : TopicRecord).encode ∧
          TreeStore.decode bytes = .ok { record with updatedAt := none } ∧
          TreeStore.decode ({ record with updatedAt := none } : TopicRecord).encode =
            .ok { record with updatedAt := none } := by
  let last : Instant := ⟨Time.maxSeconds, 1999999999, by decide⟩
  let record : TopicRecord :=
    (TopicRecord.set {} last 7 (-1)).set last (-2147483648) 9223372036854775807
  let other : TopicRecord := { record with updatedAt := none }
  let turned : Bytes :=
    word 8 2 ++ encodeEntry (7, -1) ++ encodeEntry (-2147483648, 9223372036854775807) ++ [0]
  have fits : record.Fits := (fits_default.set (by decide) last).set (by decide) last
  have othersFit : other.Fits := fits
  obtain ⟨whole, breaks, -, begins, again⟩ := decode_encode_exact fits
  have read : TreeStore.decode turned = .ok other := by decide +kernel
  refine ⟨record, other, by decide +kernel, by decide +kernel, whole [0], ?_, ?_, turned,
    by decide +kernel, read, again turned other read⟩
  · exact breaks record.encode.dropLast (List.dropLast_prefix _) (by decide +kernel)
  · intro first
    have form_eq := begins other othersFit first
    exact absurd form_eq (by decide +kernel)

end TopicReplay.Store.TopicRecord
