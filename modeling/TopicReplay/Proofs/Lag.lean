import TopicReplay.Broker.Log
import TopicReplay.Lag
import TopicReplay.Proofs.Store.Contents
import TopicReplay.Proofs.Store.Memory

/-!
# The lag report is a join

Lags are computed topic by topic, and each is put into the first row that speaks of its
partition. Where no two rows speak of one partition, every row gets the end of its own
partition and the lag of its own offset, as if the broker were asked for it alone. A memory
store never lists two such rows. A tree store does if the names of two topics are no text and
are read alike.

The main statements are `withLags_of_nodup` and `lag_report_is_join`.
-/

namespace TopicReplay

open Broker (Client LogBroker)
open Store (Filter MemoryStore OffsetStore Row StoredOffset TopicKey TopicRecord TreeStore)

variable {β σ : Type} [Client β σ]

/-! ## Rows -/

namespace Store.Row

variable {row : Row} {lag : PartitionLag} {key : TopicKey} {partition : Int}

/-- The partition that a row speaks of. -/
def place (row : Row) : TopicKey × Int := (row.key, row.partition)

theorem speaksOf_iff : row.speaksOf key partition = true ↔ row.place = (key, partition) := by
  rw [speaksOf, Bool.and_eq_true, Bool.and_eq_true, beq_iff_eq, beq_iff_eq, beq_iff_eq, place,
    Row.key, Prod.mk.injEq]
  exact and_congr_left' (TopicKey.mk.injEq .. ▸ Iff.rfl)

@[simp]
theorem place_note (lag : PartitionLag) (row : Row) : (row.note lag).place = row.place := rfl

/-- A row with the end of its own partition and the lag of its own offset. -/
def joined (client : β) (row : Row) : Row :=
  row.note (.of client row.topic row.partition row.offset)

/-- A row with a lag, if it is that of its partition. -/
def take (row : Row) (note : TopicKey × PartitionLag) : Row :=
  if row.speaksOf note.1 note.2.partition then row.note note.2 else row

theorem place_take (row : Row) (note : TopicKey × PartitionLag) :
    (row.take note).place = row.place := by
  rw [take]
  split <;> rfl

/-- A row that has a lag keeps it as long as there is no other one for its partition. -/
theorem foldl_take_note {notes : List (TopicKey × PartitionLag)}
    (only : ∀ note ∈ notes, row.speaksOf note.1 note.2.partition = true → note.2 = lag) :
    notes.foldl take (row.note lag) = row.note lag := by
  induction notes with
  | nil => rfl
  | cons note rest ih =>
      have later := ih fun other member => only other (List.mem_cons_of_mem _ member)
      rw [List.foldl_cons, take]
      split
      case isTrue speaks =>
        rw [only note List.mem_cons_self speaks]
        exact later
      case isFalse => exact later

/-- A row takes the one lag that there is for its partition. -/
theorem foldl_take {notes : List (TopicKey × PartitionLag)}
    (only : ∀ note ∈ notes, row.speaksOf note.1 note.2.partition = true → note.2 = lag)
    (some_note : ∃ note ∈ notes, row.speaksOf note.1 note.2.partition = true) :
    notes.foldl take row = row.note lag := by
  induction notes with
  | nil =>
      rcases some_note with ⟨note, member, -⟩
      cases member
  | cons note rest ih =>
      have onlyLater := fun other (member : other ∈ rest) =>
        only other (List.mem_cons_of_mem _ member)
      rw [List.foldl_cons, take]
      split
      case isTrue speaks =>
        rw [only note List.mem_cons_self speaks]
        exact foldl_take_note onlyLater
      case isFalse silent =>
        apply ih onlyLater
        rcases some_note with ⟨other, member, speaks⟩
        rcases List.mem_cons.mp member with rfl | later
        · exact absurd speaks silent
        · exact ⟨other, later, speaks⟩

end Store.Row

/-! ## Notes -/

/-- Where no two rows speak of one partition, a lag is put into every row that speaks of its. -/
theorem noteLag_of_nodup {rows : List Row} (nodup : (rows.map Row.place).Nodup)
    (note : TopicKey × PartitionLag) :
    noteLag note.1 note.2 rows = rows.map fun row => row.take note := by
  induction rows with
  | nil => rfl
  | cons row rest ih =>
      rcases List.nodup_cons.mp nodup with ⟨fresh, restNodup⟩
      rw [noteLag, List.map_cons, Row.take]
      split
      case isTrue speaks =>
        have others : ∀ other ∈ rest, other = other.take note := by
          intro other member
          rw [Row.take, if_neg]
          intro also
          apply fresh
          rw [Row.speaksOf_iff.mp speaks, ← Row.speaksOf_iff.mp also]
          exact List.mem_map_of_mem member
        rw [← List.map_congr_left others, List.map_id']
      case isFalse => rw [ih restNodup]

theorem foldl_noteLag {rows : List Row} (nodup : (rows.map Row.place).Nodup)
    (notes : List (TopicKey × PartitionLag)) :
    notes.foldl (fun rows note => noteLag note.1 note.2 rows) rows =
      rows.map fun row => notes.foldl Row.take row := by
  induction notes generalizing rows with
  | nil => exact (List.map_id' rows).symm
  | cons note rest ih =>
      have places : (rows.map fun row => row.take note).map Row.place = rows.map Row.place := by
        rw [List.map_map]
        exact List.map_congr_left fun row _ => row.place_take note
      rw [List.foldl_cons, noteLag_of_nodup nodup, ih (places ▸ nodup), List.map_map]
      rfl

/-- The lags of the topics that records belong to, topic by topic. -/
def lagNotes (client : β) (records : OrderedMap TopicKey TopicRecord) :
    List (TopicKey × PartitionLag) :=
  records.toList.flatMap fun (key, record) =>
    (partitionLags client key.topic record).map fun lag => (key, lag)

theorem withLags_eq_foldl (client : β) (rows : List Row) :
    withLags client rows = (lagNotes client (recordsByTopic rows)).foldl
      (fun rows note => noteLag note.1 note.2 rows) rows := by
  rw [withLags, lagNotes, List.foldl_flatMap]
  simp only [List.foldl_map]

theorem mem_lagNotes_iff {client : β} {records : OrderedMap TopicKey TopicRecord}
    {note : TopicKey × PartitionLag} :
    note ∈ lagNotes client records ↔ ∃ record partition stored, records.get? note.1 = some record ∧
      record.get? partition = some stored ∧
      note.2 = .of client note.1.topic partition stored := by
  simp only [lagNotes, List.mem_flatMap, partitionLags, List.map_map, List.mem_map]
  constructor
  · rintro ⟨⟨key, record⟩, held, ⟨partition, stored⟩, offset, rfl⟩
    exact ⟨record, partition, stored, OrderedMap.mem_toList_iff.mp held,
      OrderedMap.mem_toList_iff.mp offset, rfl⟩
  · rcases note with ⟨key, lag⟩
    rintro ⟨record, partition, stored, held, offset, same⟩
    dsimp only at same held
    subst same
    exact ⟨(key, record), OrderedMap.mem_toList_iff.mpr held, (partition, stored),
      OrderedMap.mem_toList_iff.mpr offset, rfl⟩

theorem recordsByTopic_append_singleton (rows : List Row) (row : Row) :
    recordsByTopic (rows ++ [row]) = (recordsByTopic rows).update row.key fun record =>
      { offsets := (record.getD {}).offsets.insert row.partition row.offset } := by
  rw [recordsByTopic, List.foldl_append]
  rfl

/-- Among the offsets of rows, that of the last row counts that speaks of a partition. -/
theorem get?_recordsByTopic (rows : List Row) (key : TopicKey) (partition : Int) :
    ((recordsByTopic rows).get? key).bind (·.get? partition) =
      (rows.reverse.find? (·.speaksOf key partition)).map (·.offset) := by
  induction rows using List.reverseRecOn with
  | nil => rfl
  | append_singleton rows row ih =>
      rw [recordsByTopic_append_singleton, List.reverse_append, List.reverse_singleton,
        List.singleton_append, List.find?_cons]
      by_cases sameKey : key = row.key
      · subst sameKey
        rw [OrderedMap.get?_update_self, Option.bind_some, TopicRecord.get?]
        by_cases samePartition : partition = row.partition
        · have speaks : row.speaksOf row.key partition = true :=
            Row.speaksOf_iff.mpr (by rw [samePartition]; rfl)
          rw [speaks, samePartition, OrderedMap.get?_insert_self]
          rfl
        · have silent : row.speaksOf row.key partition = false := by
            rw [Bool.eq_false_iff, ne_eq, Row.speaksOf_iff]
            exact fun same => samePartition (congrArg Prod.snd same).symm
          rw [silent, ← ih, OrderedMap.get?_insert_of_ne _ _ samePartition]
          cases (recordsByTopic rows).get? row.key <;> rfl
      · have silent : row.speaksOf key partition = false := by
          rw [Bool.eq_false_iff, ne_eq, Row.speaksOf_iff]
          exact fun same => sameKey (congrArg Prod.fst same).symm
        rw [silent, ← ih, OrderedMap.get?_update_of_ne _ _ sameKey]

/-- Where no two rows speak of one partition, the offsets are those of the rows. -/
theorem get?_recordsByTopic_of_nodup {rows : List Row} (nodup : (rows.map Row.place).Nodup)
    {row : Row} (member : row ∈ rows) :
    ((recordsByTopic rows).get? row.key).bind (·.get? row.partition) = some row.offset := by
  have speaks : row.speaksOf row.key row.partition = true := Row.speaksOf_iff.mpr rfl
  rw [get?_recordsByTopic]
  cases found : rows.reverse.find? (·.speaksOf row.key row.partition) with
  | none => exact absurd speaks (List.find?_eq_none.mp found row (List.mem_reverse.mpr member))
  | some other =>
      have same : other = row := by
        apply List.inj_on_of_nodup_map nodup
        · exact List.mem_reverse.mp (List.mem_of_find?_eq_some found)
        · exact member
        · exact Row.speaksOf_iff.mp (List.find?_some found)
      rw [same]
      rfl

/-- Where no two rows speak of one partition, each gets the end of its own partition and the lag
of its own offset. -/
theorem withLags_of_nodup {rows : List Row} (nodup : (rows.map Row.place).Nodup) (client : β) :
    withLags client rows = rows.map (Row.joined client) := by
  rw [withLags_eq_foldl, foldl_noteLag nodup]
  apply List.map_congr_left
  intro row member
  have stored := get?_recordsByTopic_of_nodup nodup member
  rcases Option.bind_eq_some_iff.mp stored with ⟨record, held, offset⟩
  apply Row.foldl_take
  · rintro ⟨key, lag⟩ noted speaks
    rcases mem_lagNotes_iff.mp noted with ⟨other, partition, otherOffset, otherHeld, found, same⟩
    dsimp only at otherHeld same speaks ⊢
    subst same
    have place : (row.key, row.partition) = (key, partition) := Row.speaksOf_iff.mp speaks
    rcases Prod.mk.inj place with ⟨rfl, rfl⟩
    cases held.symm.trans otherHeld
    cases offset.symm.trans found
    rfl
  · exact ⟨(row.key, .of client row.topic row.partition row.offset),
      mem_lagNotes_iff.mpr ⟨record, _, _, held, offset, rfl⟩, Row.speaksOf_iff.mpr rfl⟩

/-! ## Rows that come second -/

theorem noteLag_append (key : TopicKey) (lag : PartitionLag) (front rest : List Row) :
    noteLag key lag (front ++ rest) =
      if front.any (·.speaksOf key lag.partition) then noteLag key lag front ++ rest
      else front ++ noteLag key lag rest := by
  induction front with
  | nil => rfl
  | cons row front ih =>
      rw [List.cons_append, noteLag, noteLag, List.any_cons]
      by_cases speaks : row.speaksOf key lag.partition = true
      · simp [speaks]
      · rw [if_neg speaks, if_neg speaks, ih, Bool.eq_false_iff.mpr speaks, Bool.false_or]
        split <;> rfl

theorem map_place_noteLag (key : TopicKey) (lag : PartitionLag) (rows : List Row) :
    (noteLag key lag rows).map Row.place = rows.map Row.place := by
  induction rows with
  | nil => rfl
  | cons row rest ih =>
      rw [noteLag]
      split
      · rfl
      · rw [List.map_cons, List.map_cons, ih]

/-- A row stays as it is if one before it speaks of its partition. -/
theorem foldl_noteLag_of_earlier {row : Row} {front : List Row}
    (earlier : row.place ∈ front.map Row.place) (rest : List Row)
    (notes : List (TopicKey × PartitionLag)) :
    ∃ before behind, before.length = front.length ∧
      notes.foldl (fun rows note => noteLag note.1 note.2 rows) (front ++ row :: rest) =
        before ++ row :: behind := by
  induction notes generalizing front rest with
  | nil => exact ⟨front, rest, rfl, rfl⟩
  | cons note notes ih =>
      rw [List.foldl_cons, noteLag_append]
      split
      case isTrue =>
        have places := map_place_noteLag note.1 note.2 front
        have length := congrArg List.length places
        rw [List.length_map, List.length_map] at length
        rw [← length]
        exact ih (places ▸ earlier) rest
      case isFalse none =>
        have silent : ¬row.speaksOf note.1 note.2.partition = true := by
          intro speaks
          rcases List.mem_map.mp earlier with ⟨other, member, same⟩
          apply none
          rw [List.any_eq_true]
          exact ⟨other, member, Row.speaksOf_iff.mpr (same.trans (Row.speaksOf_iff.mp speaks))⟩
        rw [noteLag, if_neg silent]
        exact ih earlier _

/-- Rows speak of different partitions if none comes after one that speaks of the same. -/
theorem nodup_of_fresh {rows : List Row}
    (fresh : ∀ front row rest, rows = front ++ row :: rest → row.place ∉ front.map Row.place) :
    (rows.map Row.place).Nodup := by
  induction rows using List.reverseRecOn with
  | nil => exact .nil
  | append_singleton rows row ih =>
      have earlier : (rows.map Row.place).Nodup := by
        apply ih
        rintro front other rest rfl
        exact fresh front other (rest ++ [row]) (by simp)
      rw [List.map_append, List.map_singleton]
      apply earlier.append (List.nodup_singleton _)
      rw [List.disjoint_singleton]
      exact fresh rows row [] rfl

/-- Each row gets the end of its own partition if no two rows speak of one, and only then. -/
theorem withLags_eq_iff {rows : List Row} (blank : ∀ row ∈ rows, row.remote = none) (client : β) :
    withLags client rows = rows.map (Row.joined client) ↔ (rows.map Row.place).Nodup := by
  constructor
  · intro joined
    apply nodup_of_fresh
    rintro front row rest rfl earlier
    -- The second of two such rows has nothing, but would have something in a join.
    have nothing := blank row (by simp)
    rcases foldl_noteLag_of_earlier earlier rest (lagNotes client (recordsByTopic _)) with
      ⟨before, behind, length, report⟩
    rw [← withLags_eq_foldl, joined, List.map_append, List.map_cons] at report
    have parts := List.append_inj report (by rw [List.length_map, length])
    have same : row.joined client = row := (List.cons.inj parts.2).1
    rw [← same] at nothing
    cases nothing
  · exact fun nodup => withLags_of_nodup nodup client

/-! ## Listings -/

/-- A row with the end of its own partition, as its broker tells it. -/
def Store.StoredOffset.joined (client : β) (stored : StoredOffset) : Row :=
  stored.row.joined client

/-- Stored offsets that are listed speak of different partitions. -/
def Store.Apart (rows : List StoredOffset) : Prop :=
  rows.Pairwise fun first second => (first.key, first.partition) ≠ (second.key, second.partition)

theorem nodup_places_iff {rows : List StoredOffset} :
    ((rows.map StoredOffset.row).map Row.place).Nodup ↔ Store.Apart rows := by
  rw [List.map_map, List.Nodup, List.pairwise_map]
  rfl

/-- Rows in strict order speak of different partitions. -/
theorem Store.StoredOffset.Precedes.apart {first second : StoredOffset}
    (less : first.Precedes second) :
    (first.key, first.partition) ≠ (second.key, second.partition) := by
  intro same
  rcases Prod.mk.inj same with ⟨key, partition⟩
  have sameKey : compare second.key second.key = .eq := Std.ReflCmp.compare_self
  have samePartition : compare second.partition second.partition = .eq := Std.ReflCmp.compare_self
  have equal : first.order second = .eq := by
    rw [StoredOffset.order, key, partition, sameKey, samePartition]
    rfl
  rw [StoredOffset.precedes_iff, equal] at less
  cases less

section

variable {ρ : Type} [OffsetStore ρ] {store : ρ} {filter : Filter} {rows : List StoredOffset}

/-- The report is joined with the ends of the partitions if the rows that are listed speak of
different ones, and only then. -/
theorem listOffsets_eq_iff (listed : OffsetStore.list store filter = .ok rows) (client : β) :
    listOffsets store filter (some client) = .ok (rows.map (StoredOffset.joined client)) ↔
      Store.Apart rows := by
  have report : listOffsets store filter (some client) =
      .ok (withLags client (rows.map StoredOffset.row)) := by
    rw [listOffsets, listed]
    rfl
  have blank : ∀ row ∈ rows.map StoredOffset.row, row.remote = none := by
    intro row member
    rcases List.mem_map.mp member with ⟨stored, -, rfl⟩
    rfl
  have joined : rows.map (StoredOffset.joined client) =
      (rows.map StoredOffset.row).map (Row.joined client) := by
    rw [List.map_map]
    rfl
  rw [report, joined, Except.ok.injEq, withLags_eq_iff blank, nodup_places_iff]

/-- The report fails as the listing does. -/
theorem listOffsets_of_error {fault : Store.Error}
    (fails : OffsetStore.list store filter = .error fault)
    (client? : Option β) : listOffsets store filter client? = .error fault := by
  rw [listOffsets, fails]
  rfl

end

namespace Store.TreeStore

/-- The rows of a record speak of its topic, each of another partition. -/
theorem Held.key_of_mem_rows {held : Held} {row : StoredOffset} (member : row ∈ held.rows) :
    row.key = held.place.key := by
  rw [rows, read] at member
  cases reads : decode held.bytes with
  | error fault =>
      rw [reads] at member
      cases member
  | ok record =>
      rw [reads] at member
      exact (TopicRecord.mem_stored_iff.mp member).1

theorem Held.pairwise_rows (held : Held) : held.rows.Pairwise StoredOffset.Precedes := by
  rw [rows, read]
  cases decode held.bytes with
  | error fault => exact .nil
  | ok record => exact record.pairwise_stored _

/-- Every record stands by the bytes of a name. -/
def Named (store : TreeStore) : Prop :=
  ∀ place, (store.bytes? place).isSome → ∃ topic, Text.bytesOf topic = place.topic

/-- Different names that are text are not read alike. -/
theorem Named.eq_of_key_eq {store : TreeStore} (named : store.Named) {first second : Place}
    (held : (store.bytes? first).isSome) (also : (store.bytes? second).isSome)
    (same : first.key = second.key) : first = second := by
  rcases named first held with ⟨topic, name⟩
  rcases named second also with ⟨other, otherName⟩
  rw [Place.key, Place.key, ← name, ← otherName, Text.lossyString_bytesOf, Text.lossyString_bytesOf,
    TopicKey.mk.injEq] at same
  apply Place.ext same.1
  rw [← name, ← otherName, same.2]

/-- Where all names are text, the rows that are listed speak of different partitions. -/
theorem Named.apart {store : TreeStore} (named : store.Named) {filter : Filter}
    {stored : List StoredOffset} (lists : store.list filter = .ok stored) : Apart stored := by
  rw [(list_eq_ok_iff.mp lists).2, Apart, List.pairwise_flatMap]
  constructor
  · exact fun held _ => held.pairwise_rows.imp StoredOffset.Precedes.apart
  · apply (store.pairwise_records filter).imp_of_mem
    intro held other member otherMember less row inHeld otherRow inOther same
    have key : held.place.key = other.place.key := by
      rw [← held.key_of_mem_rows inHeld, ← other.key_of_mem_rows inOther]
      exact congrArg Prod.fst same
    have place := named.eq_of_key_eq (Option.isSome_of_eq_some (mem_records_iff.mp member).2)
      (Option.isSome_of_eq_some (mem_records_iff.mp otherMember).2) key
    have itself : held.place.order other.place = .eq := by
      rw [place]
      exact Std.ReflCmp.compare_self
    rw [Held.Precedes, itself] at less
    cases less

end Store.TreeStore

/-- What a report says of a stored offset: all that was listed of it, and what the broker tells
of its own partition. -/
structure Reports (broker : LogBroker) (stored : StoredOffset) (row : Row) : Prop where
  environment : row.environment = stored.environment
  topic : row.topic = stored.topic
  partition : row.partition = stored.partition
  offset : row.offset = stored.offset
  updatedAt : row.updatedAt = stored.updatedAt
  /-- The lag is how far the offset lies behind the end, and never below zero. -/
  known : ∀ newest, broker.lookup ⟨stored.topic, stored.partition⟩ .newest = .ok newest →
    row.remote = some (.known newest) ∧ row.lag = some (max (newest - stored.offset) 0)
  notFound : ∀ e, broker.lookup ⟨stored.topic, stored.partition⟩ .newest = .error e →
    e.isNotFound = true → row.remote = some .notFound ∧ row.lag = none
  unknown : ∀ e, broker.lookup ⟨stored.topic, stored.partition⟩ .newest = .error e →
    e.isNotFound = false → row.remote = some (.unknown e.message) ∧ row.lag = none

theorem remoteOffset_eq (broker : LogBroker) (place : TopicPartition) :
    remoteOffset broker place = match broker.lookup place .newest with
      | .ok newest => .known newest
      | .error e => if e.isNotFound then .notFound else .unknown e.message := by
  rw [remoteOffset]
  have lookup_eq : Client.lookup broker place .newest = match broker.lookup place .newest with
      | .ok offset => .answer offset
      | .error e => .refusal e := rfl
  rw [lookup_eq]
  cases broker.lookup place .newest <;> rfl

theorem reports_joined (broker : LogBroker) (stored : StoredOffset) :
    Reports broker stored (stored.joined broker) where
  environment := rfl
  topic := rfl
  partition := rfl
  offset := rfl
  updatedAt := rfl
  known newest answer := by
    have remote := remoteOffset_eq broker ⟨stored.topic, stored.partition⟩
    rw [answer] at remote
    exact ⟨congrArg some remote, congrArg (lagBehind · stored.offset) remote⟩
  notFound e refusal missing := by
    have remote := remoteOffset_eq broker ⟨stored.topic, stored.partition⟩
    rw [refusal] at remote
    simp only [missing, if_true] at remote
    exact ⟨congrArg some remote, congrArg (lagBehind · stored.offset) remote⟩
  unknown e refusal present := by
    have remote := remoteOffset_eq broker ⟨stored.topic, stored.partition⟩
    rw [refusal] at remote
    simp only [present] at remote
    exact ⟨congrArg some remote, congrArg (lagBehind · stored.offset) remote⟩

/-- The lag report has the rows of the listing in their order, each with what the broker tells of
its own partition, whatever it tells of others: always so for a memory store, and for a tree store
exactly if the rows speak of different partitions, as they do where the names of all topics are
text. The report fails only as the listing does. -/
theorem lag_report_is_join (filter : Filter) (broker : LogBroker) :
    (∀ store : MemoryStore, listOffsets store filter (some broker) =
      .ok ((store.list filter).map (StoredOffset.joined broker))) ∧
    (∀ (store : TreeStore) (rows : List StoredOffset), store.list filter = .ok rows →
      (listOffsets store filter (some broker) = .ok (rows.map (StoredOffset.joined broker)) ↔
        Store.Apart rows)) ∧
    (∀ (store : TreeStore) (rows : List StoredOffset), store.Named → store.list filter = .ok rows →
      Store.Apart rows) ∧
    (∀ (store : TreeStore) (fault : Store.Error), store.list filter = .error fault →
      listOffsets store filter (some broker) = .error fault) ∧
    ∀ stored, Reports broker stored (stored.joined broker) := by
  refine ⟨?_, ?_, ?_, ?_, reports_joined broker⟩
  · intro store
    have itself : store.Shows store.records.get? := fun _ => rfl
    exact (listOffsets_eq_iff rfl broker).mpr
      ((itself.lists filter).ascending.imp StoredOffset.Precedes.apart)
  · exact fun store rows lists => listOffsets_eq_iff lists broker
  · exact fun store rows named lists => named.apart lists
  · exact fun store fault fails => listOffsets_of_error fails (some broker)

/-- Two topics of one environment whose names are no text and are read alike. -/
def readAlike : TreeStore :=
  (TreeStore.put {} "dev" [0xFF] (TopicRecord.encode ⟨.ofList [(0, 5)], none⟩)).put "dev" [0xFE]
    (TopicRecord.encode ⟨.ofList [(0, 7)], none⟩)

/-- Of two rows that speak of one partition, the second gets nothing. -/
theorem not_join_of_readAlike :
    (listOffsets readAlike {} (some ({} : LogBroker))).map (List.map Row.remote) =
        .ok [some .notFound, none] ∧
      listOffsets readAlike {} (some ({} : LogBroker)) ≠
        (readAlike.list {}).map (List.map (StoredOffset.joined ({} : LogBroker))) := by
  have report : (listOffsets readAlike {} (some ({} : LogBroker))).map (List.map Row.remote) =
      .ok [some .notFound, none] := by decide +kernel
  have joined : ((readAlike.list {}).map (List.map (StoredOffset.joined ({} : LogBroker)))).map
      (List.map Row.remote) = .ok [some .notFound, some .notFound] := by decide +kernel
  refine ⟨report, ?_⟩
  intro same
  rw [same, joined] at report
  cases report

/-- Two topics of one environment whose names are text. -/
def twoTopics : TreeStore :=
  (TreeStore.put {} "dev" (Text.bytesOf "orders") (TopicRecord.encode ⟨.ofList [(0, 5)], none⟩)).put
    "dev" (Text.bytesOf "users") (TopicRecord.encode ⟨.ofList [(0, 7)], none⟩)

/-- A broker that has one of the topics, and does not tell the end of it. -/
def silentBroker : LogBroker :=
  (LogBroker.addTopic {} "orders" 1).failLookups ⟨"orders", 0⟩ (.timeout "fetch_watermarks" 500)

/-- A lookup that fails tells why in its own row, and a topic that is missing is told in its. -/
theorem lag_report_is_join_silent :
    twoTopics.Named ∧ ∃ rows, twoTopics.list {} = .ok rows ∧ Store.Apart rows ∧
      listOffsets twoTopics {} (some silentBroker) =
        .ok (rows.map (StoredOffset.joined silentBroker)) ∧
      (rows.map fun row => (row.joined silentBroker).remote) =
        [some (.unknown "operation timed out after 500ms: fetch_watermarks"), some .notFound] := by
  rcases lag_report_is_join {} silentBroker with ⟨-, joins, apart, -⟩
  have named : twoTopics.Named := by
    intro place held
    rw [twoTopics, TreeStore.bytes?_put _ ⟨"dev", _⟩, TreeStore.bytes?_put _ ⟨"dev", _⟩] at held
    split at held
    case isTrue same => exact ⟨"users", congrArg TreeStore.Place.topic same.symm⟩
    case isFalse =>
      split at held
      case isTrue same => exact ⟨"orders", congrArg TreeStore.Place.topic same.symm⟩
      case isFalse => cases held
  have lists : twoTopics.list {} =
      .ok [⟨"dev", "orders", 0, 5, none⟩, ⟨"dev", "users", 0, 7, none⟩] := by
    decide +kernel
  have rowsApart := apart twoTopics _ named lists
  exact ⟨named, _, lists, rowsApart, (joins twoTopics _ lists).mpr rowsApart, by decide +kernel⟩

end TopicReplay
