import TopicReplay.Proofs.Store.View

/-!
# Memory stores show views

A memory store is its view written out: the records stand in a map from topics. Its
listings are sorted, so that they do not depend on the order in which the map is
traversed.

The main statement is `faithful`.
-/

namespace TopicReplay.Store.MemoryStore

/-- A memory store holds the records of a view. -/
def Shows (store : MemoryStore) (view : View) : Prop := ∀ key, store.records.get? key = view key

section

variable {store : MemoryStore} {view : View}

theorem Shows.read (shows : store.Shows view) (key : TopicKey) :
    store.read key = view.read key := by
  rw [MemoryStore.read, OrderedMap.getD, shows key, View.read]

theorem Shows.commit (shows : store.Shows view) (stamp : Instant) (key : TopicKey)
    {partition offset : Int} (storable : Storable partition offset) :
    (store.commit stamp key partition offset).Shows
      (view.next (.commit stamp key partition offset storable)) := by
  intro other
  by_cases same : other = key
  · subst same
    rw [MemoryStore.commit, OrderedMap.get?_update_self, shows other, View.next,
      Function.update_self, View.read]
  · rw [MemoryStore.commit, OrderedMap.get?_update_of_ne _ _ same, shows other, View.next,
      Function.update_of_ne same]

theorem Shows.delete (shows : store.Shows view) (environment : String) (topic : Option String) :
    (store.delete environment topic).2.Shows (view.next (.delete environment topic)) := by
  intro key
  rw [MemoryStore.delete, OrderedMap.get?_filter, shows key, View.next_delete]
  by_cases covered : isCovered environment topic key = true
  · rw [if_pos covered]
    simp [covered]
  · rw [if_neg covered]
    cases view key <;> simp [covered]

/-- What a deletion counts are the records that do not stay. -/
theorem Shows.loses (shows : store.Shows view) (environment : String) (topic : Option String) :
    view.Loses environment topic (store.delete environment topic).1 := by
  have count : (store.delete environment topic).1 =
      ((store.records.toList.filter fun entry => isCovered environment topic entry.1).map
        (·.1)).length := by
    have parts := List.length_eq_length_filter_add (l := store.records.toList)
      fun entry => isCovered environment topic entry.1
    rw [List.length_map]
    exact Nat.sub_eq_of_eq_add parts
  rw [count]
  apply View.loses_of_keys
  · exact store.records.nodup_keys.sublist (List.filter_sublist.map _)
  · intro key
    rw [OrderedMap.mem_keys_filter_iff, shows key]

/-- The entries of the map list what a filter selects, already in order. -/
theorem Shows.lists_selected (shows : store.Shows view) (filter : Filter) :
    view.Lists filter (selected filter store.records.toList) := by
  have rows : selected filter store.records.toList =
      ((store.records.toList.filter fun entry => filter.selects entry.1).map (·.1)).flatMap
        fun key => (view.read key).stored key := by
    rw [selected, List.flatMap_map]
    apply List.flatMap_congr
    intro entry member
    have found := OrderedMap.mem_toList_iff.mp (List.mem_filter.mp member).1
    rw [shows] at found
    rw [View.read, found]
    rfl
  rw [rows]
  apply View.lists_of_keys
  · rw [List.pairwise_map]
    exact store.records.ascending.filter _
  · intro key
    rw [OrderedMap.mem_keys_filter_iff, shows key]

theorem Shows.lists (shows : store.Shows view) (filter : Filter) :
    view.Lists filter (store.list filter) := by
  have lists := shows.lists_selected filter
  rwa [list, StoredOffset.sort_of_perm lists.ascending (.refl _)]

/-- A listing does not tell in which order the map was traversed. -/
theorem list_of_traversal (store : MemoryStore) (filter : Filter)
    {entries : List (TopicKey × TopicRecord)} (traversed : entries.Perm store.records.toList) :
    StoredOffset.sort (selected filter entries) = store.list filter := by
  have itself : store.Shows store.records.get? := fun _ => rfl
  have ascending := (itself.lists_selected filter).ascending
  have perm : (selected filter entries).Perm (selected filter store.records.toList) :=
    (traversed.filter _).flatMap_right _
  rw [list, StoredOffset.sort_of_perm ascending perm,
    StoredOffset.sort_of_perm ascending (.refl _)]

end

/-- Memory stores answer as the views that they show. -/
theorem faithful : Faithful MemoryStore Shows where
  gives := by
    intro store view shows request
    cases request with
    | commit | reopen => rfl
    | delete environment topic => exact ⟨_, rfl, shows.loses environment topic⟩
    | read key => exact congrArg (fun record => Except.ok (Answer.record record)) (shows.read key)
    | list filter => exact ⟨_, rfl, shows.lists filter⟩
  next := by
    intro store view shows request
    cases request with
    | commit stamp key partition offset storable => exact shows.commit stamp key storable
    | delete environment topic => exact shows.delete environment topic
    | read | list | reopen => exact shows

theorem shows_empty : ({} : MemoryStore).Shows fun _ => none := fun _ => rfl

end TopicReplay.Store.MemoryStore
