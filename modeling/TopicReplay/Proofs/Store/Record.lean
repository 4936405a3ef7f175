import Mathlib.Data.Int.Interval
import TopicReplay.Proofs.Except
import TopicReplay.Proofs.OrderedMap
import TopicReplay.Proofs.Store.Lawful
import TopicReplay.Proofs.Text.Utf8
import TopicReplay.Proofs.Text.Word
import TopicReplay.Proofs.Time.Layout

/-!
# Reading back records

The binary form of a record holds the record, as long as its partitions and offsets
have the sizes that the words keep. Each part of the form tells its own length, so that
a part is read back whatever follows it. Whatever bytes a record is read from, it has
these sizes.

The main statements are `decode_encode_append` and `fits_of_decode`.
-/

namespace TopicReplay.Store.TopicRecord

open Text (Bytes word wordValue signedWord signedWordValue)

/-- The partitions and offsets of a record have the sizes that records keep. -/
def Fits (record : TopicRecord) : Prop :=
  ∀ partition offset, record.get? partition = some offset → Storable partition offset

theorem fits_default : Fits {} := by
  intro partition offset found
  cases found

/-- A record keeps its sizes when an offset of the right size is stored. -/
theorem Fits.set {record : TopicRecord} (fits : record.Fits) {partition offset : Int}
    (storable : Storable partition offset) (now : Instant) :
    (record.set now partition offset).Fits := by
  intro other value found
  rw [get?, TopicRecord.set, OrderedMap.get?_insert] at found
  split at found
  case isTrue same =>
    cases found
    rw [Std.LawfulEqOrd.eq_of_compare same]
    exact storable
  case isFalse => exact fits other value found

/-! ## Parts -/

/-- What stands at the front is taken whole. -/
theorem takeBytes_append (front rest : Bytes) :
    takeBytes front.length (front ++ rest) = .ok (front, rest) := by
  simp [takeBytes]

theorem takeBytes_word (width n : Nat) (rest : Bytes) :
    takeBytes width (word width n ++ rest) = .ok (word width n, rest) := by
  have taken := takeBytes_append (word width n) rest
  rwa [Text.length_word] at taken

theorem takeBytes_signedWord (width : Nat) (n : Int) (rest : Bytes) :
    takeBytes width (signedWord width n ++ rest) = .ok (signedWord width n, rest) :=
  takeBytes_word width _ rest

theorem signedWordValue_partition {partition offset : Int} (fits : Storable partition offset) :
    signedWordValue (signedWord 4 partition) = partition := by
  rcases fits with ⟨⟨least, most⟩, -⟩
  unfold Text.minInt32 at least
  unfold Text.maxInt32 at most
  apply Text.signedWordValue_signedWord
  · change -4294967296 ≤ 2 * partition
    omega
  · change 2 * partition < 4294967296
    omega

theorem signedWordValue_offset {partition offset : Int} (fits : Storable partition offset) :
    signedWordValue (signedWord 8 offset) = offset := by
  rcases fits with ⟨-, least, most⟩
  unfold Text.minInt64 at least
  unfold Text.maxInt64 at most
  apply Text.signedWordValue_signedWord
  · change -18446744073709551616 ≤ 2 * offset
    omega
  · change 2 * offset < 18446744073709551616
    omega

/-- So many entries are read back one after the other. -/
theorem decodeEntries_append {entries : List (Int × Int)}
    (fits : ∀ entry ∈ entries, Storable entry.1 entry.2) (offsets : OrderedMap Int Int)
    (rest : Bytes) :
    decodeEntries entries.length offsets (entries.flatMap encodeEntry ++ rest) =
      .ok (entries.foldl (fun offsets entry => offsets.insert entry.1 entry.2) offsets, rest) := by
  induction entries generalizing offsets with
  | nil => rfl
  | cons entry entries ih =>
      have storable := fits entry List.mem_cons_self
      have others : ∀ entry ∈ entries, Storable entry.1 entry.2 := fun entry member =>
        fits entry (List.mem_cons_of_mem _ member)
      simp only [List.length_cons, List.flatMap_cons, encodeEntry, List.append_assoc,
        decodeEntries, takeBytes_signedWord, bind, Except.bind,
        signedWordValue_partition storable, signedWordValue_offset storable]
      exact ih others _

/-- The text of an instant has a length that a word can tell. -/
theorem length_stampText_lt (t : Instant) :
    (Text.encodeUtf8 (t.text .shortest .letter)).length < Nat.pow 256 8 := by
  have bytes := Text.length_encodeUtf8_le (t.text .shortest .letter)
  have characters := Time.length_text_le t
  exact Nat.lt_of_le_of_lt (bytes.trans (Nat.mul_le_mul_left 4 characters)) (by decide)

/-- The instant of the last commit is read back. -/
theorem decodeStamp_append (stamp : Option Instant) (rest : Bytes) :
    decodeStamp (encodeStamp stamp ++ rest) = .ok stamp := by
  cases stamp with
  | none => rfl
  | some t =>
      have short := length_stampText_lt t
      have meant := Text.decodeUtf8_encodeUtf8 (t.text .shortest .letter)
      have tag : ∀ bytes, takeBytes 1 (1 :: bytes) = .ok ([1], bytes) := takeBytes_append [1]
      have one : wordValue [1] = 1 := rfl
      rw [encodeStamp]
      generalize Text.encodeUtf8 (t.text .shortest .letter) = text at short meant
      simp only [List.cons_append, List.append_assoc, decodeStamp, tag, bind, Except.bind, one,
        takeBytes_word, Text.wordValue_word short, List.take_left, if_neg (Nat.lt_irrefl _), meant,
        Time.read_canonical, Except.mapError, Except.map]

/-- There are fewer entries in a record than a word can count, since there are only so
many partitions. -/
theorem Fits.size_lt {record : TopicRecord} (fits : record.Fits) :
    record.offsets.size < Nat.pow 256 8 := by
  have within : record.offsets.keys.toFinset ⊆ Finset.Icc Text.minInt32 Text.maxInt32 := by
    intro partition member
    rw [List.mem_toFinset] at member
    rcases List.mem_map.mp member with ⟨entry, stored, rfl⟩
    exact Finset.mem_Icc.mpr (fits entry.1 entry.2 (OrderedMap.mem_toList_iff.mp stored)).1
  have count : record.offsets.size = record.offsets.keys.toFinset.card := by
    rw [List.toFinset_card_of_nodup record.offsets.nodup_keys]
    exact (List.length_map _).symm
  rw [count]
  apply Nat.lt_of_le_of_lt (Finset.card_le_card within)
  rw [Int.card_Icc]
  decide

/-- Reading the binary form of a record gives the record back, whatever follows. -/
theorem decode_encode_append {record : TopicRecord} (fits : record.Fits) (rest : Bytes) :
    decode (record.encode ++ rest) = .ok record := by
  have entries : ∀ entry ∈ record.offsets.toList, Storable entry.1 entry.2 := fun entry member =>
    fits entry.1 entry.2 (OrderedMap.mem_toList_iff.mp member)
  have offsets := decodeEntries_append entries .empty (encodeStamp record.updatedAt ++ rest)
  rw [← OrderedMap.ofList, OrderedMap.ofList_toList] at offsets
  have count : wordValue (word 8 record.offsets.size) = record.offsets.toList.length :=
    Text.wordValue_word fits.size_lt
  simp only [encode, List.append_assoc, decode, takeBytes_word, bind, Except.bind, count, offsets,
    decodeStamp_append]
  rfl

/-! ## What is read -/

theorem length_of_takeBytes {count : Nat} {bytes taken rest : Bytes}
    (took : takeBytes count bytes = .ok (taken, rest)) : taken.length = count := by
  simp only [takeBytes] at took
  split at took
  case isTrue => cases took
  case isFalse enough =>
    cases took
    exact Nat.le_antisymm (List.length_take_le _ _) (Nat.le_of_not_lt enough)

/-- Words of the right widths hold a partition and an offset of the right sizes. -/
theorem storable_of_words {partition offset : Bytes} (four : partition.length = 4)
    (eight : offset.length = 8) :
    Storable (signedWordValue partition) (signedWordValue offset) := by
  have partitionBounds := Text.signedWordValue_bounds partition
  have offsetBounds := Text.signedWordValue_bounds offset
  rw [four, show Nat.pow 256 4 = 4294967296 from rfl] at partitionBounds
  rw [eight, show Nat.pow 256 8 = 18446744073709551616 from rfl] at offsetBounds
  unfold Storable Text.minInt32 Text.maxInt32 Text.minInt64 Text.maxInt64
  omega

/-- Entries that are read have the sizes that records keep. -/
theorem fits_of_decodeEntries {count : Nat} {offsets found : OrderedMap Int Int}
    {bytes rest : Bytes} (read : decodeEntries count offsets bytes = .ok (found, rest))
    (fits : Fits { offsets }) : Fits { offsets := found } := by
  induction count generalizing offsets bytes with
  | zero =>
      cases read
      exact fits
  | succ count ih =>
      rcases bind_eq_ok_iff.mp read with ⟨⟨partition, tail⟩, four, read⟩
      rcases bind_eq_ok_iff.mp read with ⟨⟨offset, tail⟩, eight, read⟩
      have storable := storable_of_words (length_of_takeBytes four) (length_of_takeBytes eight)
      exact ih read (fits.set storable .epoch)

/-- A record that was read has the sizes that records keep. -/
theorem fits_of_decode {bytes : Bytes} {record : TopicRecord} (read : decode bytes = .ok record) :
    record.Fits := by
  rcases bind_eq_ok_iff.mp read with ⟨⟨count, tail⟩, -, read⟩
  rcases bind_eq_ok_iff.mp read with ⟨⟨offsets, tail⟩, entries, read⟩
  rcases bind_eq_ok_iff.mp read with ⟨updatedAt, -, read⟩
  cases read
  exact fits_of_decodeEntries entries fits_default

end TopicReplay.Store.TopicRecord
