import Mathlib.Data.Finset.Card
import Mathlib.Data.List.Sort
import TopicReplay.Proofs.OrderedMap
import TopicReplay.Proofs.Store.Lawful

/-!
# What stores are asked and what they show

A store is asked one request after the other. What it holds after them is a view: a map
from topics of environments to records, which knows nothing of how a store is laid out.
A view determines the answer to every request, and what it is after it. A kind of store
is faithful if its stores answer as the views that they show, and show the next view
after every request.

The main statements are `View.Gives.unique` and `Faithful.run`.
-/

namespace TopicReplay.Store

/-- What a store is asked. Commits are stamped with what the clock shows. -/
inductive Request where
  | commit (stamp : Instant) (key : TopicKey) (partition offset : Int)
      (storable : Storable partition offset)
  /-- Deletes one topic of an environment, or all. -/
  | delete (environment : String) (topic : Option String)
  | read (key : TopicKey)
  | list (filter : Filter)
  /-- Closes the store and opens it again. -/
  | reopen

/-- What a store answers. -/
inductive Answer where
  | done
  /-- So many records were removed. -/
  | removed (count : Nat)
  | record (record : TopicRecord)
  | listing (rows : List StoredOffset)

/-- A store that can be closed and opened again. -/
class Reopens (ρ : Type) where
  /-- The store as it is found again. -/
  reopen : ρ → Except Error ρ

/-- A memory store lasts as long as its process and stays open. -/
instance : Reopens MemoryStore where
  reopen store := .ok store

section Runs

variable {ρ : Type} [OffsetStore ρ] [Reopens ρ]

/-- The store that a change leaves, which is the old one if the change fails. -/
def settle (store : ρ) : Except Error ρ → Except Error Answer × ρ
  | .ok after => (.ok .done, after)
  | .error fault => (.error fault, store)

/-- Asks a store: its answer, and the store afterwards. -/
def ask (store : ρ) : Request → Except Error Answer × ρ
  | .commit stamp key partition offset _ =>
      settle store (OffsetStore.commit store stamp key partition offset)
  | .delete environment topic =>
      let (count, after) := OffsetStore.delete store environment topic
      (.ok (.removed count), after)
  | .read key => ((OffsetStore.read store key).map .record, store)
  | .list filter => ((OffsetStore.list store filter).map .listing, store)
  | .reopen => settle store (Reopens.reopen store)

/-- The store after requests. -/
def after (store : ρ) (requests : List Request) : ρ :=
  requests.foldl (fun store request => (ask store request).2) store

/-- The answers to requests, one after the other. -/
def answers (store : ρ) : List Request → List (Except Error Answer)
  | [] => []
  | request :: rest => (ask store request).1 :: answers (ask store request).2 rest

@[simp]
theorem after_nil (store : ρ) : after store [] = store := rfl

@[simp]
theorem after_append_singleton (store : ρ) (requests : List Request) (request : Request) :
    after store (requests ++ [request]) = (ask (after store requests) request).2 := by
  simp [after]

end Runs

/-! ## Views -/

/-- One stored offset stands before another: by environment, then by topic, then by partition. -/
def StoredOffset.Precedes (first second : StoredOffset) : Prop :=
  first.environment < second.environment ∨
    first.environment = second.environment ∧ (first.topic < second.topic ∨
      first.topic = second.topic ∧ first.partition < second.partition)

/-- What a store holds: the records of topics of environments. -/
abbrev View := TopicKey → Option TopicRecord

namespace View

/-- The record of a topic, which is empty where nothing is stored. -/
def read (view : View) (key : TopicKey) : TopicRecord := (view key).getD {}

/-- The view after a request. -/
def next (view : View) : Request → View
  | .commit stamp key partition offset _ =>
      Function.update view key (some ((view.read key).set stamp partition offset))
  | .delete environment topic =>
      fun key => if MemoryStore.isCovered environment topic key then none else view key
  | .read _ | .list _ | .reopen => view

/-- The view after requests, where nothing was stored before. -/
def of (requests : List Request) : View := requests.foldl next fun _ => none

/-- A view holds a stored offset. -/
def HasRow (view : View) (row : StoredOffset) : Prop :=
  ∃ record, view row.key = some record ∧ record.get? row.partition = some row.offset ∧
    record.updatedAt = row.updatedAt

/-- The rows are those that a filter selects, each once and in order. -/
structure Lists (view : View) (filter : Filter) (rows : List StoredOffset) : Prop where
  ascending : rows.Pairwise StoredOffset.Precedes
  mem_iff : ∀ row, row ∈ rows ↔ filter.selects row.key = true ∧ view.HasRow row

/-- So many topics have a record that a deletion removes. -/
def Loses (view : View) (environment : String) (topic : Option String) (count : Nat) : Prop :=
  ∃ keys : Finset TopicKey, keys.card = count ∧
    ∀ key, key ∈ keys ↔ MemoryStore.isCovered environment topic key = true ∧ (view key).isSome

/-- A view gives an answer to a request. -/
def Gives (view : View) : Request → Except Error Answer → Prop
  | .commit .., answer | .reopen, answer => answer = .ok .done
  | .delete environment topic, answer =>
      ∃ count, answer = .ok (.removed count) ∧ view.Loses environment topic count
  | .read key, answer => answer = .ok (.record (view.read key))
  | .list filter, answer => ∃ rows, answer = .ok (.listing rows) ∧ view.Lists filter rows

theorem next_delete (view : View) (environment : String) (topic : Option String)
    (key : TopicKey) :
    view.next (.delete environment topic) key =
      if MemoryStore.isCovered environment topic key = true then none else view key :=
  rfl

theorem of_append_singleton (requests : List Request) (request : Request) :
    of (requests ++ [request]) = (of requests).next request := by
  simp [of]

end View

/-! ## One answer -/

/-- Items that all differ are in strict order once they are sorted. -/
theorem pairwise_mergeSort_of_apart {α : Type} {cmp : α → α → Ordering} [Std.TransCmp cmp]
    {items : List α} (apart : items.Pairwise fun first second => cmp first second ≠ .eq) :
    (items.mergeSort fun first second => cmp first second != .gt).Pairwise fun first second =>
      cmp first second = .lt := by
  have sorted : (items.mergeSort fun first second => cmp first second != .gt).Pairwise
      fun first second => (cmp first second != .gt) = true := by
    apply List.pairwise_mergeSort
    · intro first second third before after
      rw [bne_iff_ne, ne_eq, Ordering.ne_gt_iff_isLE] at before after ⊢
      exact Std.TransCmp.isLE_trans before after
    · intro first second
      have swapped : cmp second first = (cmp first second).swap := Std.OrientedCmp.eq_swap
      rw [swapped]
      cases cmp first second <;> rfl
  have different : (items.mergeSort fun first second => cmp first second != .gt).Pairwise
      fun first second => cmp first second ≠ .eq := by
    refine ((List.mergeSort_perm items _).pairwise_iff ?_).mpr apart
    exact fun differ same => differ (Std.OrientedCmp.eq_symm same)
  apply (sorted.and different).imp
  rintro first second ⟨before, differ⟩
  cases order : cmp first second with
  | lt => rfl
  | eq => exact absurd order differ
  | gt =>
      rw [order] at before
      cases before

namespace StoredOffset

theorem compare_string_eq_lt {s t : String} : compare s t = .lt ↔ s < t :=
  compareOfLessAndEq_eq_lt

/-- Sorting puts rows in this order. -/
theorem precedes_iff {first second : StoredOffset} :
    first.Precedes second ↔ first.order second = .lt := by
  have keys : compare first.key second.key =
      (compare first.environment second.environment).then (compare first.topic second.topic) := rfl
  rw [order, keys, Ordering.then_assoc, Ordering.then_eq_lt, Ordering.then_eq_lt,
    compare_string_eq_lt, compare_string_eq_lt, Std.compare_eq_lt,
    Std.LawfulEqOrd.compare_eq_iff_eq, Std.LawfulEqOrd.compare_eq_iff_eq]
  rfl

instance : Std.TransCmp order :=
  inferInstanceAs (Std.TransCmp (compareLex (compareOn key) (compareOn partition)))

theorem Precedes.asymm {first second : StoredOffset} (before : first.Precedes second) :
    ¬second.Precedes first := by
  rw [precedes_iff] at before ⊢
  rw [Std.OrientedCmp.gt_of_lt before]
  exact Ordering.noConfusion

end StoredOffset

instance : Std.Irrefl StoredOffset.Precedes := ⟨fun _ before => before.asymm before⟩

instance : Std.Antisymm StoredOffset.Precedes :=
  ⟨fun _ _ before after => absurd after before.asymm⟩

/-- Rows in strict order are what sorting makes of them, in whatever order they come. -/
theorem StoredOffset.sort_of_perm {rows others : List StoredOffset}
    (ascending : rows.Pairwise Precedes) (perm : others.Perm rows) : sort others = rows := by
  have apart : rows.Pairwise fun first second => first.order second ≠ .eq := by
    apply ascending.imp
    intro first second before
    rw [precedes_iff.mp before]
    exact Ordering.noConfusion
  have othersApart : others.Pairwise fun first second => first.order second ≠ .eq :=
    (perm.pairwise_iff fun differ same => differ (Std.OrientedCmp.eq_symm same)).mpr apart
  have sorted : (sort others).Pairwise Precedes :=
    (pairwise_mergeSort_of_apart othersApart).imp precedes_iff.mpr
  exact ((List.mergeSort_perm others _).trans perm).eq_of_pairwise' sorted ascending

namespace View

variable {view : View}

/-- There is one list of the rows that a filter selects. -/
theorem Lists.unique {filter : Filter} {rows others : List StoredOffset}
    (lists : view.Lists filter rows) (also : view.Lists filter others) : rows = others := by
  apply lists.ascending.eq_of_mem_iff also.ascending
  intro row
  rw [lists.mem_iff, also.mem_iff]

/-- A deletion removes one number of records. -/
theorem Loses.unique {environment : String} {topic : Option String} {count other : Nat}
    (loses : view.Loses environment topic count) (also : view.Loses environment topic other) :
    count = other := by
  rcases loses with ⟨keys, rfl, mem_iff⟩
  rcases also with ⟨others, rfl, also_mem_iff⟩
  have same : keys = others := by
    ext key
    rw [mem_iff, also_mem_iff]
  rw [same]

/-- A view gives one answer to a request. -/
theorem Gives.unique {request : Request} {answer other : Except Error Answer}
    (gives : view.Gives request answer) (also : view.Gives request other) : answer = other := by
  cases request with
  | commit | reopen | read => exact Eq.trans gives (Eq.symm also)
  | delete =>
      rcases gives with ⟨count, rfl, loses⟩
      rcases also with ⟨otherCount, rfl, alsoLoses⟩
      rw [loses.unique alsoLoses]
  | list =>
      rcases gives with ⟨rows, rfl, lists⟩
      rcases also with ⟨others, rfl, alsoLists⟩
      rw [lists.unique alsoLists]

end View

/-! ## Rows of topics -/

theorem TopicRecord.mem_stored_iff {record : TopicRecord} {key : TopicKey} {row : StoredOffset} :
    row ∈ record.stored key ↔ row.key = key ∧ record.get? row.partition = some row.offset ∧
      record.updatedAt = row.updatedAt := by
  simp only [stored, List.mem_map, get?, ← OrderedMap.mem_toList_iff]
  constructor
  · rintro ⟨entry, member, rfl⟩
    exact ⟨rfl, member, rfl⟩
  · rintro ⟨rfl, member, stamp⟩
    exact ⟨(row.partition, row.offset), member, by rw [stamp]; rfl⟩

/-- The rows of one record ascend by partition. -/
theorem TopicRecord.pairwise_stored (record : TopicRecord) (key : TopicKey) :
    (record.stored key).Pairwise StoredOffset.Precedes := by
  rw [stored, List.pairwise_map]
  apply record.offsets.ascending.imp
  intro first second less
  rw [StoredOffset.precedes_iff, StoredOffset.order, Ordering.then_eq_lt]
  exact .inr ⟨Std.ReflCmp.compare_self, less⟩

/-- The rows of the topics that a filter selects, topic by topic, are those of the view. -/
theorem View.lists_of_keys {view : View} {filter : Filter} {keys : List TopicKey}
    (ascending : keys.Pairwise fun first second => compare first second = .lt)
    (mem_iff : ∀ key, key ∈ keys ↔ filter.selects key = true ∧ (view key).isSome) :
    view.Lists filter (keys.flatMap fun key => (view.read key).stored key) where
  ascending := by
    rw [List.pairwise_flatMap]
    constructor
    · exact fun key _ => TopicRecord.pairwise_stored _ _
    · apply ascending.imp
      intro first second less row inFirst other inSecond
      rw [StoredOffset.precedes_iff, StoredOffset.order, (TopicRecord.mem_stored_iff.mp inFirst).1,
        (TopicRecord.mem_stored_iff.mp inSecond).1, less]
      rfl
  mem_iff := by
    intro row
    rw [List.mem_flatMap]
    constructor
    · rintro ⟨key, member, stored⟩
      rcases TopicRecord.mem_stored_iff.mp stored with ⟨rfl, offset, stamp⟩
      rcases (mem_iff _).mp member with ⟨selected, held⟩
      rcases Option.isSome_iff_exists.mp held with ⟨record, found⟩
      rw [View.read, found] at offset stamp
      exact ⟨selected, record, found, offset, stamp⟩
    · rintro ⟨selected, record, found, offset, stamp⟩
      refine ⟨row.key, (mem_iff _).mpr ⟨selected, by rw [found]; rfl⟩, ?_⟩
      rw [View.read, found]
      exact TopicRecord.mem_stored_iff.mpr ⟨rfl, offset, stamp⟩

theorem MemoryStore.environment_of_isCovered {environment : String} {topic : Option String}
    {key : TopicKey} (covered : isCovered environment topic key = true) :
    key.environment = environment := by
  rw [isCovered, Bool.and_eq_true] at covered
  exact eq_of_beq covered.1

/-- A list of the topics that lose their records counts them. -/
theorem View.loses_of_keys {view : View} {environment : String} {topic : Option String}
    {keys : List TopicKey} (nodup : keys.Nodup)
    (mem_iff : ∀ key, key ∈ keys ↔
      MemoryStore.isCovered environment topic key = true ∧ (view key).isSome) :
    view.Loses environment topic keys.length := by
  refine ⟨keys.toFinset, List.toFinset_card_of_nodup nodup, ?_⟩
  intro key
  rw [List.mem_toFinset, mem_iff]

/-! ## Faithful stores -/

/-- Stores answer as the views that they show, and show the next view after a request. -/
structure Faithful (ρ : Type) [OffsetStore ρ] [Reopens ρ] (shows : ρ → View → Prop) : Prop where
  gives : ∀ {store view}, shows store view → ∀ request, view.Gives request (ask store request).1
  next : ∀ {store view}, shows store view → ∀ request,
    shows (ask store request).2 (view.next request)

namespace Faithful

variable {ρ σ : Type} [OffsetStore ρ] [Reopens ρ] [OffsetStore σ] [Reopens σ]
  {shows : ρ → View → Prop} {alsoShows : σ → View → Prop}

/-- After requests a store shows the view of them. -/
theorem run (faithful : Faithful ρ shows) {store : ρ} (empty : shows store fun _ => none)
    (requests : List Request) : shows (after store requests) (View.of requests) := by
  induction requests using List.reverseRecOn with
  | nil => exact empty
  | append_singleton requests request ih =>
      rw [after_append_singleton, View.of_append_singleton]
      exact faithful.next ih request

/-- Faithful stores that show one view answer alike from then on. -/
theorem answers_eq (faithful : Faithful ρ shows) (also : Faithful σ alsoShows) {store : ρ}
    {other : σ} {view : View} (shown : shows store view) (alsoShown : alsoShows other view)
    (requests : List Request) : answers store requests = answers other requests := by
  induction requests generalizing store other view with
  | nil => rfl
  | cons request rest ih =>
      have answer := (faithful.gives shown request).unique (also.gives alsoShown request)
      have others := ih (faithful.next shown request) (also.next alsoShown request)
      rw [answers, answers, answer, others]

end Faithful

end TopicReplay.Store
