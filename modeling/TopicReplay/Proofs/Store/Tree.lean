import TopicReplay.Proofs.Store.Record
import TopicReplay.Proofs.Store.View
import TopicReplay.Store.Tree

/-!
# Tree stores show views

A tree store holds the records of a view in their binary form, each in the tree of its
environment by the bytes of its topic's name. Every record in it can be read back, so that
no request fails. The name of a tree tells its environment, and names of topics compare as
their bytes do, so that the trees, one after the other by environment, are in the order of
the topics.

The main statements are `Shows.read`, `Shows.commit`, `Shows.delete`, `Shows.loses`, `Shows.list`
and `Shows.lists`, one for each request.
-/

namespace TopicReplay.Store.TreeStore

open Text (Bytes)

/-- Every tree belongs to an environment. -/
def Owned (store : TreeStore) : Prop :=
  ∀ name tree, store.trees.get? name = some tree → ∃ environment, treeName environment = name

/-- A tree store holds the records of a view. -/
structure Shows (store : TreeStore) (view : View) : Prop where
  found : ∀ key : TopicKey, (store.tree key.environment).get? (Text.bytesOf key.topic) =
    (view key).map TopicRecord.encode
  /-- Every record stands by the bytes of a name. -/
  named : ∀ environment bytes encoded, (store.tree environment).get? bytes = some encoded →
    ∃ topic, Text.bytesOf topic = bytes
  fits : ∀ key record, view key = some record → record.Fits
  owned : store.Owned

theorem shows_empty : ({} : TreeStore).Shows fun _ => none where
  found _ := rfl
  named _ _ _ found := by cases found
  fits _ _ found := by cases found
  owned _ _ found := by cases found

/-! ## Names -/

/-- The name of a tree tells its environment. -/
@[simp]
theorem environment?_treeName (environment : String) :
    environment? (treeName environment) = some environment := by
  have marked : mark.isPrefixOf (mark ++ environment.toList) = true :=
    List.isPrefixOf_iff_prefix.mpr (List.prefix_append _ _)
  rw [environment?, treeName, Text.decodeUtf8?_encodeUtf8]
  simp [marked]

theorem treeName_inj {environment other : String} :
    treeName environment = treeName other ↔ environment = other := by
  constructor
  · intro same
    apply Option.some.inj
    rw [← environment?_treeName environment, same, environment?_treeName]
  · exact congrArg treeName

theorem compare_treeName_eq_iff {environment other : String} :
    compare (treeName environment) (treeName other) = .eq ↔ environment = other := by
  rw [Std.LawfulEqOrd.compare_eq_iff_eq, treeName_inj]

/-! ## Trees -/

theorem tree_erase (trees : OrderedMap Bytes Tree) (environment other : String) :
    (TreeStore.mk (trees.erase (treeName environment))).tree other =
      if other = environment then .empty else (TreeStore.mk trees).tree other := by
  simp only [tree, OrderedMap.getD, OrderedMap.get?_erase, compare_treeName_eq_iff]
  split <;> rfl

theorem tree_insert (trees : OrderedMap Bytes Tree) (environment other : String) (tree : Tree) :
    (TreeStore.mk (trees.insert (treeName environment) tree)).tree other =
      if other = environment then tree else (TreeStore.mk trees).tree other := by
  simp only [TreeStore.tree, OrderedMap.getD, OrderedMap.get?_insert, compare_treeName_eq_iff]
  split <;> rfl

theorem tree_put (store : TreeStore) (environment other : String) (topic record : Bytes) :
    (store.put environment topic record).tree other =
      if other = environment then (store.tree environment).insert topic record
      else store.tree other :=
  tree_insert store.trees environment other _

theorem tree_of_get? {store : TreeStore} {environment : String} {tree : Tree}
    (held : store.trees.get? (treeName environment) = some tree) :
    store.tree environment = tree := by
  rw [TreeStore.tree, OrderedMap.getD, held]
  rfl

theorem tree_of_get?_eq_none {store : TreeStore} {environment : String}
    (missing : store.trees.get? (treeName environment) = none) :
    store.tree environment = .empty := by
  rw [TreeStore.tree, OrderedMap.getD, missing]
  rfl

theorem Owned.erase {trees : OrderedMap Bytes Tree} (owned : (TreeStore.mk trees).Owned)
    (name : Bytes) : (TreeStore.mk (trees.erase name)).Owned := by
  intro other tree found
  rw [OrderedMap.get?_erase] at found
  split at found
  case isTrue => cases found
  case isFalse => exact owned other tree found

theorem Owned.insert {trees : OrderedMap Bytes Tree} (owned : (TreeStore.mk trees).Owned)
    (environment : String) (tree : Tree) :
    (TreeStore.mk (trees.insert (treeName environment) tree)).Owned := by
  intro other inserted found
  rw [OrderedMap.get?_insert] at found
  split at found
  case isTrue same => exact ⟨environment, (Std.LawfulEqOrd.eq_of_compare same).symm⟩
  case isFalse => exact owned other inserted found

/-- Bytes that are put in the place of a record are found there, and the others stay. -/
theorem get?_put (store : TreeStore) (key other : TopicKey) (record : Bytes) :
    ((store.put key.environment (Text.bytesOf key.topic) record).tree other.environment).get?
        (Text.bytesOf other.topic) =
      if other = key then some record
      else (store.tree other.environment).get? (Text.bytesOf other.topic) := by
  rw [tree_put]
  by_cases same : other = key
  · subst same
    rw [if_pos rfl, if_pos rfl, OrderedMap.get?_insert_self]
  · rw [if_neg same]
    split
    case isTrue environment =>
      have apart : Text.bytesOf other.topic ≠ Text.bytesOf key.topic := fun bytes =>
        same (TopicKey.mk.injEq .. ▸ ⟨environment, Text.bytesOf_injective bytes⟩)
      rw [OrderedMap.get?_insert_of_ne _ _ apart, environment]
    case isFalse => rfl

/-- What a deletion leaves of the tree of its environment. -/
def kept (store : TreeStore) (environment : String) : Option String → Tree
  | none => .empty
  | some topic => (store.tree environment).erase (Text.bytesOf topic)

/-- A deletion counts what it takes from one tree, and leaves the other trees alone. -/
theorem delete_spec (store : TreeStore) (environment : String) (topic : Option String) :
    (store.delete environment topic).1 =
        (store.tree environment).size - (store.kept environment topic).size ∧
      ∀ other, (store.delete environment topic).2.tree other =
        if other = environment then store.kept environment topic else store.tree other := by
  cases held : store.trees.get? (treeName environment) with
  | none =>
      have absent := tree_of_get?_eq_none held
      have nothing : store.kept environment topic = .empty := by
        cases topic with
        | none => rfl
        | some topic =>
            rw [kept, absent]
            rfl
      simp only [TreeStore.delete, held, absent, nothing]
      refine ⟨rfl, fun other => ?_⟩
      split
      case isTrue same => rw [same, absent]
      case isFalse => rfl
  | some tree =>
      have whole := tree_of_get? held
      cases topic with
      | none =>
          simp only [TreeStore.delete, held, whole, kept]
          exact ⟨rfl, fun other => tree_erase _ _ _⟩
      | some topic =>
          simp only [TreeStore.delete, held, kept, whole]
          refine ⟨trivial, fun other => ?_⟩
          split
          case isTrue bare =>
            rw [OrderedMap.eq_empty_of_isEmpty bare]
            exact tree_erase _ _ _
          case isFalse => exact tree_insert _ _ _ _

theorem Owned.delete {store : TreeStore} (owned : store.Owned) (environment : String)
    (topic : Option String) : (store.delete environment topic).2.Owned := by
  cases held : store.trees.get? (treeName environment) with
  | none =>
      simp only [TreeStore.delete, held]
      exact owned
  | some tree =>
      cases topic with
      | none =>
          simp only [TreeStore.delete, held]
          exact owned.erase _
      | some topic =>
          simp only [TreeStore.delete, held]
          split
          · exact owned.erase _
          · exact owned.insert _ _

theorem get?_of_get?_kept {store : TreeStore} {environment : String} {topic : Option String}
    {bytes encoded : Bytes} (found : (store.kept environment topic).get? bytes = some encoded) :
    (store.tree environment).get? bytes = some encoded := by
  cases topic with
  | none => cases found
  | some topic =>
      rw [kept, OrderedMap.get?_erase] at found
      split at found
      case isTrue => cases found
      case isFalse => exact found

section

variable {store : TreeStore} {view : View}

/-! ## Records -/

/-- A record of the view is read back from its binary form. -/
theorem Shows.decode (shows : store.Shows view) {key : TopicKey} {record : TopicRecord}
    (held : view key = some record) : TreeStore.decode record.encode = .ok record := by
  have whole := TopicRecord.decode_encode_append (shows.fits key record held) []
  rw [List.append_nil] at whole
  rw [TreeStore.decode, whole]
  rfl

theorem Shows.read (shows : store.Shows view) (key : TopicKey) :
    store.read key = .ok (view.read key) := by
  rw [TreeStore.read, shows.found key, View.read]
  cases held : view key with
  | none => rfl
  | some record => exact shows.decode held

theorem Shows.fits_read (shows : store.Shows view) (key : TopicKey) : (view.read key).Fits := by
  rw [View.read]
  cases held : view key with
  | none => exact TopicRecord.fits_default
  | some record => exact shows.fits key record held

/-- A commit succeeds and puts the record of the next view in place. -/
theorem Shows.commit (shows : store.Shows view) (stamp : Instant) (key : TopicKey)
    {partition offset : Int} (storable : Storable partition offset) :
    ∃ after, store.commit stamp key partition offset = .ok after ∧
      after.Shows (view.next (.commit stamp key partition offset storable)) := by
  refine ⟨_, by rw [TreeStore.commit, shows.read]; rfl, ?_, ?_, ?_, ?_⟩
  · intro other
    rw [get?_put, View.next]
    split
    case isTrue same =>
      subst same
      rw [Function.update_self]
      rfl
    case isFalse apart => rw [Function.update_of_ne apart, shows.found other]
  · intro environment bytes encoded found
    rw [tree_put] at found
    split at found
    case isTrue same =>
      subst same
      by_cases named : bytes = Text.bytesOf key.topic
      · exact ⟨key.topic, named.symm⟩
      · rw [OrderedMap.get?_insert_of_ne _ _ named] at found
        exact shows.named _ _ _ found
    case isFalse => exact shows.named _ _ _ found
  · intro other record held
    rw [View.next] at held
    by_cases same : other = key
    · subst same
      rw [Function.update_self] at held
      cases held
      exact (shows.fits_read other).set storable stamp
    · rw [Function.update_of_ne same] at held
      exact shows.fits other record held
  · exact shows.owned.insert _ _

/-- What a deletion leaves of a tree are the records that the next view has. -/
theorem Shows.get?_kept (shows : store.Shows view) (topic : Option String) (key : TopicKey) :
    (store.kept key.environment topic).get? (Text.bytesOf key.topic) =
      (view.next (.delete key.environment topic) key).map TopicRecord.encode := by
  rw [View.next_delete]
  cases topic with
  | none =>
      have covered : MemoryStore.isCovered key.environment none key = true := by
        simp [MemoryStore.isCovered]
      rw [if_pos covered]
      rfl
  | some topic =>
      rw [kept, OrderedMap.get?_erase, shows.found key]
      by_cases same : key.topic = topic
      · have covered : MemoryStore.isCovered key.environment (some topic) key = true := by
          simp [MemoryStore.isCovered, same]
        rw [if_pos covered, if_pos (by rw [same]; exact Std.ReflCmp.compare_self)]
        rfl
      · have uncovered : ¬MemoryStore.isCovered key.environment (some topic) key = true := by
          simp [MemoryStore.isCovered, same]
        rw [if_neg uncovered, if_neg]
        intro bytes
        exact same (Text.bytesOf_injective (Std.LawfulEqOrd.eq_of_compare bytes))

/-- A deletion takes the records away that the next view lacks. -/
theorem Shows.delete (shows : store.Shows view) (environment : String) (topic : Option String) :
    (store.delete environment topic).2.Shows (view.next (.delete environment topic)) where
  found := by
    intro key
    rw [(delete_spec store environment topic).2]
    split
    case isTrue same =>
      subst same
      exact shows.get?_kept topic key
    case isFalse apart =>
      have uncovered : ¬MemoryStore.isCovered environment topic key = true := by
        simp [MemoryStore.isCovered, apart]
      rw [View.next_delete, if_neg uncovered]
      exact shows.found key
  named := by
    intro other bytes encoded found
    rw [(delete_spec store environment topic).2] at found
    split at found
    case isTrue => exact shows.named _ _ _ (get?_of_get?_kept found)
    case isFalse => exact shows.named _ _ _ found
  fits := by
    intro key record held
    rw [View.next_delete] at held
    split at held
    case isTrue => cases held
    case isFalse => exact shows.fits key record held
  owned := shows.owned.delete environment topic

/-! ## Topics -/

/-- The topics of an environment in the order of its tree. -/
def topics (store : TreeStore) (environment : String) : List TopicKey :=
  (store.tree environment).toList.map fun entry => ⟨environment, Text.lossyString entry.1⟩

theorem Shows.mem_topics_iff (shows : store.Shows view) {environment : String} {key : TopicKey} :
    key ∈ store.topics environment ↔ key.environment = environment ∧ (view key).isSome := by
  rw [topics, List.mem_map]
  constructor
  · rintro ⟨entry, member, rfl⟩
    have stored := OrderedMap.mem_toList_iff.mp member
    rcases shows.named _ _ _ stored with ⟨topic, name⟩
    rw [← name, Text.lossyString_bytesOf]
    rw [← name, shows.found ⟨environment, topic⟩] at stored
    rcases Option.map_eq_some_iff.mp stored with ⟨record, held, -⟩
    exact ⟨rfl, Option.isSome_iff_exists.mpr ⟨record, held⟩⟩
  · rintro ⟨rfl, some_record⟩
    rcases Option.isSome_iff_exists.mp some_record with ⟨record, held⟩
    have stored := shows.found key
    rw [held] at stored
    refine ⟨(Text.bytesOf key.topic, record.encode), OrderedMap.mem_toList_iff.mpr stored, ?_⟩
    rw [Text.lossyString_bytesOf]

/-- The names of a tree ascend as their bytes do. -/
theorem Shows.pairwise_topics (shows : store.Shows view) (environment : String) :
    (store.topics environment).Pairwise fun first second => compare first second = .lt := by
  rw [topics, List.pairwise_map]
  apply (store.tree environment).ascending.imp_of_mem
  intro first second firstMember secondMember less
  rcases shows.named _ _ _ (OrderedMap.mem_toList_iff.mp firstMember) with ⟨topic, name⟩
  rcases shows.named _ _ _ (OrderedMap.mem_toList_iff.mp secondMember) with ⟨other, otherName⟩
  rw [← name, ← otherName, Text.compare_bytesOf] at less
  rw [← name, ← otherName, Text.lossyString_bytesOf, Text.lossyString_bytesOf]
  change (compare environment environment).then (compare topic other) = .lt
  rw [less, Ordering.then_eq_lt]
  exact .inr ⟨Std.ReflCmp.compare_self, rfl⟩

theorem Shows.nodup_topics (shows : store.Shows view) (environment : String) :
    (store.topics environment).Nodup := by
  apply (shows.pairwise_topics environment).imp
  rintro first _ less rfl
  have same : compare first first = .eq := Std.ReflCmp.compare_self
  rw [same] at less
  cases less

/-- The records that stay are those of the topics that are not covered. -/
theorem Shows.size_kept (shows : store.Shows view) (environment : String)
    (topic : Option String) :
    (store.kept environment topic).size =
      ((store.tree environment).toList.filter fun entry => !MemoryStore.isCovered environment topic
        ⟨environment, Text.lossyString entry.1⟩).length := by
  cases topic with
  | none => simp [kept, MemoryStore.isCovered, OrderedMap.size, OrderedMap.empty]
  | some topic =>
      rw [kept]
      apply congrArg List.length
      apply List.filter_congr
      intro entry member
      rcases shows.named _ _ _ (OrderedMap.mem_toList_iff.mp member) with ⟨name, bytes⟩
      dsimp only
      rw [← bytes, Text.compare_bytesOf, Text.lossyString_bytesOf]
      by_cases same : name = topic
      · subst same
        simp [MemoryStore.isCovered]
      · have apart : compare topic name ≠ .eq := fun equal =>
          same (Std.LawfulEqOrd.eq_of_compare equal).symm
        rw [bne_iff_ne.mpr apart]
        simp [MemoryStore.isCovered, same]

/-- What a deletion counts are the topics that lose their records. -/
theorem Shows.loses (shows : store.Shows view) (environment : String) (topic : Option String) :
    view.Loses environment topic (store.delete environment topic).1 := by
  have count : (store.delete environment topic).1 =
      ((store.topics environment).filter (MemoryStore.isCovered environment topic)).length := by
    have parts := List.length_eq_length_filter_add (l := (store.tree environment).toList)
      (MemoryStore.isCovered environment topic ∘ fun entry =>
        ⟨environment, Text.lossyString entry.1⟩)
    rw [(delete_spec store environment topic).1, topics, List.filter_map, List.length_map]
    apply Nat.sub_eq_of_eq_add
    rw [shows.size_kept environment topic]
    exact parts
  rw [count]
  apply View.loses_of_keys
  · exact (shows.nodup_topics environment).filter _
  · intro key
    rw [List.mem_filter, shows.mem_topics_iff]
    constructor
    · exact fun both => ⟨both.2, both.1.2⟩
    · exact fun both => ⟨⟨MemoryStore.environment_of_isCovered both.1, both.2⟩, both.1⟩

/-! ## Lists -/

theorem mapM_eq_ok {α β ε : Type} {items : List α} {f : α → Except ε β} {g : α → β}
    (done : ∀ item ∈ items, f item = .ok (g item)) : items.mapM f = .ok (items.map g) := by
  induction items with
  | nil => rfl
  | cons item rest ih =>
      have others := ih fun item member => done item (List.mem_cons_of_mem _ member)
      rw [List.mapM_cons, done item List.mem_cons_self, others]
      rfl

/-- The rows of one environment are those of its topics, one after the other. -/
theorem Shows.listTree (shows : store.Shows view) (filter : Filter) (environment : String) :
    listTree filter environment (store.tree environment) =
      .ok (((store.topics environment).filter fun key => filter.matchesTopic key.topic).flatMap
        fun key => (view.read key).stored key) := by
  rw [TreeStore.listTree, mapM_eq_ok (g := fun entry =>
    (view.read ⟨environment, Text.lossyString entry.1⟩).stored
      ⟨environment, Text.lossyString entry.1⟩)]
  · rw [topics, List.filter_map, List.flatMap_map]
    rfl
  · rintro ⟨bytes, encoded⟩ member
    have stored := OrderedMap.mem_toList_iff.mp (List.mem_filter.mp member).1
    rcases shows.named _ _ _ stored with ⟨topic, rfl⟩
    rw [shows.found ⟨environment, topic⟩] at stored
    rcases Option.map_eq_some_iff.mp stored with ⟨record, held, rfl⟩
    simp only [shows.decode held, Text.lossyString_bytesOf, View.read, held]
    rfl

/-! ## Environments -/

/-- The names of the trees are those of environments. -/
theorem Shows.map_treeName (shows : store.Shows view) :
    (store.trees.keys.filterMap environment?).map treeName = store.trees.keys := by
  have named : ∀ name ∈ store.trees.keys, (environment? name).map treeName = some name := by
    intro name member
    rcases List.mem_map.mp member with ⟨entry, held, rfl⟩
    rcases shows.owned _ _ (OrderedMap.mem_toList_iff.mp held) with ⟨environment, tree⟩
    rw [← tree, environment?_treeName]
    rfl
  rw [List.map_filterMap, List.filterMap_congr named, List.filterMap_some]

/-- The environments are listed in order, and each once. -/
theorem Shows.pairwise_environments (shows : store.Shows view) :
    store.environments.Pairwise fun first second => compare first second = .lt := by
  have names : ((store.trees.keys.filterMap environment?).map treeName).Nodup := by
    rw [shows.map_treeName]
    exact store.trees.nodup_keys
  apply pairwise_mergeSort_of_apart
  apply (List.Nodup.of_map treeName names).imp
  intro first second differ same
  exact differ (Std.LawfulEqOrd.eq_of_compare same)

/-- There is a tree for every environment with a record. -/
theorem Shows.mem_environments (shows : store.Shows view) {key : TopicKey}
    (some_record : (view key).isSome) : key.environment ∈ store.environments := by
  rcases Option.isSome_iff_exists.mp some_record with ⟨record, held⟩
  have stored := shows.found key
  cases there : store.trees.get? (treeName key.environment) with
  | none =>
      rw [tree_of_get?_eq_none there, held] at stored
      cases stored
  | some tree =>
      have member : treeName key.environment ∈ store.trees.keys :=
        List.mem_map.mpr ⟨(_, tree), OrderedMap.mem_toList_iff.mpr there, rfl⟩
      rw [environments, List.mem_mergeSort]
      exact List.mem_filterMap.mpr ⟨_, member, environment?_treeName _⟩

/-- The topics that a filter selects, tree by tree. -/
def selected (store : TreeStore) (filter : Filter) : List TopicKey :=
  (store.environments.filter filter.matchesEnvironment).flatMap fun environment =>
    (store.topics environment).filter fun key => filter.matchesTopic key.topic

/-- Listing succeeds with the rows of the topics that a filter selects. -/
theorem Shows.list (shows : store.Shows view) (filter : Filter) :
    store.list filter =
      .ok ((store.selected filter).flatMap fun key => (view.read key).stored key) := by
  have trees : ∀ environment ∈ store.environments.filter filter.matchesEnvironment,
      TreeStore.listTree filter environment (store.tree environment) =
        .ok (((store.topics environment).filter fun key => filter.matchesTopic key.topic).flatMap
          fun key => (view.read key).stored key) :=
    fun environment _ => shows.listTree filter environment
  rw [TreeStore.list, mapM_eq_ok trees, selected, List.flatMap_assoc]
  rfl

theorem Shows.lists (shows : store.Shows view) (filter : Filter) :
    view.Lists filter ((store.selected filter).flatMap fun key => (view.read key).stored key) := by
  apply View.lists_of_keys
  · rw [selected, List.pairwise_flatMap]
    constructor
    · exact fun environment _ => (shows.pairwise_topics environment).filter _
    · apply (shows.pairwise_environments.filter _).imp
      intro environment other less key member otherKey otherMember
      have here := (shows.mem_topics_iff.mp (List.mem_filter.mp member).1).1
      have there := (shows.mem_topics_iff.mp (List.mem_filter.mp otherMember).1).1
      change (compare key.environment otherKey.environment).then _ = .lt
      rw [here, there, less]
      rfl
  · intro key
    rw [selected, List.mem_flatMap]
    constructor
    · rintro ⟨environment, environmentMember, member⟩
      rcases List.mem_filter.mp member with ⟨held, matchesTopic⟩
      rcases shows.mem_topics_iff.mp held with ⟨rfl, some_record⟩
      have matchesEnvironment := (List.mem_filter.mp environmentMember).2
      rw [Filter.selects, matchesEnvironment, matchesTopic]
      exact ⟨rfl, some_record⟩
    · rintro ⟨selects, some_record⟩
      rw [Filter.selects, Bool.and_eq_true] at selects
      have member := shows.mem_topics_iff.mpr ⟨rfl, some_record⟩
      exact ⟨key.environment, List.mem_filter.mpr ⟨shows.mem_environments some_record, selects.1⟩,
        List.mem_filter.mpr ⟨member, selects.2⟩⟩

end

/-! ## The law of stores -/

/-- A record that can be read has the sizes that records keep. -/
theorem fits_of_read {store : TreeStore} {key : TopicKey} {record : TopicRecord}
    (found : store.read key = .ok record) : record.Fits := by
  rw [TreeStore.read] at found
  split at found
  case h_1 bytes _ =>
    cases decoded : TopicRecord.decode bytes with
    | error fault =>
        rw [TreeStore.decode, decoded] at found
        cases found
    | ok other =>
        rw [TreeStore.decode, decoded] at found
        cases found
        exact TopicRecord.fits_of_decode decoded
  case h_2 =>
    cases found
    exact TopicRecord.fits_default

/-- A commit that succeeds adds its offset to what was read, whatever else the store holds. -/
theorem read_of_commit {store after : TreeStore} {stamp : Instant} {key : TopicKey}
    {partition offset : Int} (storable : Storable partition offset)
    (done : store.commit stamp key partition offset = .ok after) :
    ∃ record, store.read key = .ok record ∧
      after.read key = .ok (record.set stamp partition offset) ∧
        ∀ other ≠ key, after.read other = store.read other := by
  cases found : store.read key with
  | error fault =>
      rw [TreeStore.commit, found] at done
      cases done
  | ok record =>
      rw [TreeStore.commit, found] at done
      cases done
      refine ⟨record, rfl, ?_, ?_⟩
      · have whole := TopicRecord.decode_encode_append ((fits_of_read found).set storable stamp) []
        rw [List.append_nil] at whole
        rw [TreeStore.read, get?_put, if_pos rfl]
        simp only [TreeStore.decode, whole]
        rfl
      · intro other apart
        rw [TreeStore.read, get?_put, if_neg apart, TreeStore.read]

/-- A record that cannot be read makes a commit fail, so that the law holds whatever bytes
a store holds. -/
instance : LawfulStore TreeStore where
  storedOffset?_commit := by
    intro store after stamp environment place next storable done
    rcases read_of_commit storable done with ⟨record, before, changed, kept⟩
    exact storedOffset?_of_reads before changed kept

end TopicReplay.Store.TreeStore
