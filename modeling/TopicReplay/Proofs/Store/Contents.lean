import Mathlib.Data.List.Nodup
import TopicReplay.Proofs.Except
import TopicReplay.Proofs.Store.Tree

/-!
# The records of a tree store

A tree store may hold any bytes: records that cannot be read, topics whose names are no
text, trees that belong to no environment. A listing goes through the records that a filter
selects, by environment and then by the bytes of the topic, and fails if one of them cannot
be read.

The main statements are `mem_records_iff`, `list_of_sound` and `damaged_of_list`.
-/

namespace TopicReplay.Store.TreeStore

open Text (Bytes)

/-! ## Environments -/

/-- An environment is read off the name of its tree, and off no other. -/
theorem environment?_eq_some_iff {name : Bytes} {environment : String} :
    environment? name = some environment ↔ treeName environment = name := by
  constructor
  · intro reads
    rw [environment?] at reads
    split at reads
    case h_1 cs text =>
      split at reads
      case isTrue marked =>
        cases reads
        rcases List.isPrefixOf_iff_prefix.mp marked with ⟨rest, rfl⟩
        rw [treeName, String.toList_ofList, List.drop_left]
        exact Text.encodeUtf8_of_decodeUtf8? text
      case isFalse => cases reads
    case h_2 => cases reads
  · rintro rfl
    exact environment?_treeName environment

theorem mem_environments_iff {store : TreeStore} {environment : String} :
    environment ∈ store.environments ↔ (store.trees.get? (treeName environment)).isSome := by
  rw [environments, List.mem_mergeSort, List.mem_filterMap, Option.isSome_iff_exists]
  constructor
  · rintro ⟨name, member, reads⟩
    rcases List.mem_map.mp member with ⟨⟨_, tree⟩, held, rfl⟩
    rw [environment?_eq_some_iff.mp reads]
    exact ⟨tree, OrderedMap.mem_toList_iff.mp held⟩
  · rintro ⟨tree, held⟩
    have member := List.mem_map_of_mem (f := (·.1)) (OrderedMap.mem_toList_iff.mpr held)
    exact ⟨_, member, environment?_treeName environment⟩

/-- An environment with a record has a tree. -/
theorem mem_environments_of_get? {store : TreeStore} {environment : String} {topic bytes : Bytes}
    (found : (store.tree environment).get? topic = some bytes) :
    environment ∈ store.environments := by
  rw [mem_environments_iff, Option.isSome_iff_ne_none]
  intro missing
  rw [tree_of_get?_eq_none missing] at found
  cases found

/-- The environments are listed in order, and each once. -/
theorem pairwise_environments (store : TreeStore) :
    store.environments.Pairwise fun first second => compare first second = .lt := by
  apply pairwise_mergeSort_of_apart
  have nodup : (store.trees.keys.filterMap environment?).Nodup := by
    apply store.trees.nodup_keys.filterMap
    intro name other environment reads also
    exact (environment?_eq_some_iff.mp reads).symm.trans (environment?_eq_some_iff.mp also)
  apply nodup.imp
  intro first second differ same
  exact differ (Std.LawfulEqOrd.eq_of_compare same)

/-! ## Places -/

/-- Where a record stands: in the tree of an environment, by bytes that may be no text. -/
@[ext]
structure Place where
  environment : String
  topic : Bytes
  deriving DecidableEq

namespace Place

/-- The topic that a listing names for a record. -/
def key (place : Place) : TopicKey := ⟨place.environment, Text.lossyString place.topic⟩

/-- Records are ordered by environment, and then by the bytes of the topic. -/
def order : Place → Place → Ordering := compareLex (compareOn environment) (compareOn topic)

instance : Std.TransCmp order :=
  inferInstanceAs (Std.TransCmp (compareLex (compareOn environment) (compareOn topic)))

end Place

/-- The bytes that stand in a place. -/
def bytes? (store : TreeStore) (place : Place) : Option Bytes :=
  (store.tree place.environment).get? place.topic

/-- Bytes that are put in a place are found there, and the others stay. -/
theorem bytes?_put (store : TreeStore) (place other : Place) (record : Bytes) :
    (store.put place.environment place.topic record).bytes? other =
      if other = place then some record else store.bytes? other := by
  rw [bytes?, tree_put]
  by_cases same : other = place
  · subst same
    rw [if_pos rfl, if_pos rfl, OrderedMap.get?_insert_self]
  · rw [if_neg same]
    by_cases environment : other.environment = place.environment
    · have apart : other.topic ≠ place.topic := fun topic => same (Place.ext environment topic)
      rw [if_pos environment, OrderedMap.get?_insert_of_ne _ _ apart, ← environment]
      rfl
    · rw [if_neg environment]
      rfl

/-! ## Records -/

/-- A record as it stands in a store. -/
structure Held where
  place : Place
  bytes : Bytes

namespace Held

/-- The rows of a record, if it can be read. -/
def read (held : Held) : Except Error (List StoredOffset) :=
  (decode held.bytes).map fun record => record.stored held.place.key

/-- The rows of a record, of which there are none if it cannot be read. -/
def rows (held : Held) : List StoredOffset := held.read.toOption.getD []

/-- One record stands before another. -/
def Precedes (first second : Held) : Prop := first.place.order second.place = .lt

instance : Std.Irrefl Precedes where
  irrefl held less := by
    have same : held.place.order held.place = .eq := Std.ReflCmp.compare_self
    rw [Precedes, same] at less
    cases less

instance : Std.Antisymm Precedes where
  antisymm first second less also := by
    rw [Precedes, Std.OrientedCmp.gt_of_lt less] at also
    cases also

end Held

/-- The records of an environment that a filter selects, in order. -/
def treeRecords (store : TreeStore) (filter : Filter) (environment : String) : List Held :=
  ((store.tree environment).toList.filter fun entry =>
    filter.matchesTopic (Text.lossyString entry.1)).map fun entry =>
      ⟨⟨environment, entry.1⟩, entry.2⟩

/-- The records that a filter selects, in order. -/
def records (store : TreeStore) (filter : Filter) : List Held :=
  (store.environments.filter filter.matchesEnvironment).flatMap (store.treeRecords filter)

variable {store : TreeStore} {filter : Filter}

theorem mem_treeRecords_iff {environment : String} {held : Held} :
    held ∈ store.treeRecords filter environment ↔ held.place.environment = environment ∧
      filter.matchesTopic held.place.key.topic = true ∧
        store.bytes? held.place = some held.bytes := by
  rw [treeRecords, List.mem_map]
  constructor
  · rintro ⟨⟨topic, bytes⟩, member, rfl⟩
    rcases List.mem_filter.mp member with ⟨stored, selected⟩
    exact ⟨rfl, selected, OrderedMap.mem_toList_iff.mp stored⟩
  · rintro ⟨rfl, selected, stored⟩
    exact ⟨(held.place.topic, held.bytes),
      List.mem_filter.mpr ⟨OrderedMap.mem_toList_iff.mpr stored, selected⟩, rfl⟩

/-- A listing goes through the records of the topics that its filter selects. -/
theorem mem_records_iff {held : Held} :
    held ∈ store.records filter ↔ filter.selects held.place.key = true ∧
      store.bytes? held.place = some held.bytes := by
  rw [records, List.mem_flatMap, Filter.selects, Bool.and_eq_true]
  constructor
  · rintro ⟨environment, member, inTree⟩
    rcases mem_treeRecords_iff.mp inTree with ⟨rfl, selected, stored⟩
    exact ⟨⟨(List.mem_filter.mp member).2, selected⟩, stored⟩
  · rintro ⟨⟨environment, topic⟩, stored⟩
    exact ⟨held.place.environment,
      List.mem_filter.mpr ⟨mem_environments_of_get? stored, environment⟩,
      mem_treeRecords_iff.mpr ⟨rfl, topic, stored⟩⟩

/-- The records are gone through in order, and each once. -/
theorem pairwise_records (store : TreeStore) (filter : Filter) :
    (store.records filter).Pairwise Held.Precedes := by
  rw [records, List.pairwise_flatMap]
  constructor
  · intro environment _
    rw [treeRecords, List.pairwise_map]
    apply ((store.tree environment).ascending.filter _).imp
    intro first second less
    have same : compare environment environment = .eq := Std.ReflCmp.compare_self
    change (compare environment environment).then (compare first.1 second.1) = .lt
    rw [same, less]
    rfl
  · apply (store.pairwise_environments.filter _).imp
    intro environment other less held member otherHeld otherMember
    change (compare held.place.environment otherHeld.place.environment).then _ = .lt
    rw [(mem_treeRecords_iff.mp member).1, (mem_treeRecords_iff.mp otherMember).1, less]
    rfl

/-! ## Listings -/

theorem listTree_eq (store : TreeStore) (filter : Filter) (environment : String) :
    listTree filter environment (store.tree environment) =
      ((store.treeRecords filter environment).mapM Held.read).map List.flatten := by
  rw [listTree, treeRecords, List.mapM_map]
  rfl

/-- A listing reads the records that its filter selects, one after the other. -/
theorem list_eq (store : TreeStore) (filter : Filter) :
    store.list filter = ((store.records filter).mapM Held.read).map List.flatten := by
  have trees : (fun environment => listTree filter environment (store.tree environment)) =
      fun environment => ((store.treeRecords filter environment).mapM Held.read).map List.flatten :=
    funext fun environment => store.listTree_eq filter environment
  rw [list, trees, mapM_map, records, mapM_flatMap]
  cases (store.environments.filter filter.matchesEnvironment).mapM fun environment =>
      (store.treeRecords filter environment).mapM Held.read with
  | error fault => rfl
  | ok rows => exact congrArg Except.ok List.flatten_flatten.symm

/-- A listing succeeds if all records can be read that its filter selects, and has their rows. -/
theorem list_eq_ok_iff {rows : List StoredOffset} :
    store.list filter = .ok rows ↔
      (∀ held ∈ store.records filter, ∃ record, decode held.bytes = .ok record) ∧
        rows = (store.records filter).flatMap Held.rows := by
  rw [list_eq, map_eq_ok_iff]
  constructor
  · rintro ⟨parts, reads, rfl⟩
    have each := mapM_eq_ok_iff.mp reads
    constructor
    · intro held member
      rcases List.mem_map.mp (each ▸ List.mem_map_of_mem member) with ⟨part, -, read⟩
      rcases map_eq_ok_iff.mp read.symm with ⟨record, found, -⟩
      exact ⟨record, found⟩
    · have rows_eq := congrArg (List.map fun read => (read.toOption.getD [])) each
      rw [List.map_map, List.map_map] at rows_eq
      exact congrArg List.flatten (((List.map_id parts).symm.trans rows_eq.symm))
  · rintro ⟨sound, rfl⟩
    refine ⟨(store.records filter).map Held.rows, ?_, rfl⟩
    rw [mapM_eq_ok_iff, List.map_map]
    apply List.map_congr_left
    intro held member
    rcases sound held member with ⟨record, found⟩
    rw [Function.comp_apply, Held.rows, Held.read, found]
    rfl

/-- A listing that fails has the fault of a record that its filter selects. -/
theorem exists_held_of_list {fault : Error} (fails : store.list filter = .error fault) :
    ∃ held ∈ store.records filter, decode held.bytes = .error fault := by
  rw [list_eq] at fails
  rcases exists_mem_of_mapM_eq_error (map_eq_error_iff.mp fails) with ⟨held, member, reads⟩
  exact ⟨held, member, map_eq_error_iff.mp reads⟩

end TopicReplay.Store.TreeStore
