import TopicReplay.Proofs.Store.History
import TopicReplay.Proofs.Store.Tree

/-!
# Changes of tree stores in steps

A commit or a deletion goes on in steps of its own once it has the lock: it opens a tree,
looks into it, and changes it or drops it. Trees are reached through handles. A handle of a
tree that was dropped since finds nothing, or is refused, which is left open here. What a
call has come to is told by what the calls before it have made of the store.

The main statements are `Stands.move` and `Stands.exists_move`.
-/

namespace TopicReplay.Store

open TreeStore (treeName)

/-- A call that changes what a store holds. Commits are stamped with what the clock shows. -/
inductive Change where
  | commit (stamp : Instant) (key : TopicKey) (partition offset : Int)
      (storable : Storable partition offset)
  /-- Deletes one topic of an environment, or all. -/
  | delete (environment : String) (topic : Option String)

namespace Change

/-- What a call asks of a store. -/
def request : Change → Request
  | commit stamp key partition offset storable => .commit stamp key partition offset storable
  | delete environment topic => .delete environment topic

/-- The environment whose tree a call opens. -/
def environment : Change → String
  | commit _ key _ _ _ => key.environment
  | delete environment _ => environment

end Change

/-- A tree store that is closed stays as it is. -/
instance : Reopens TreeStore where
  reopen store := .ok store

namespace TreeStore

/-- Two stores hold the same records. One may have an empty tree where the other has none. -/
def Agrees (store other : TreeStore) : Prop :=
  ∀ environment, store.tree environment = other.tree environment

variable {store other : TreeStore}

theorem Agrees.read (agrees : store.Agrees other) (key : TopicKey) :
    store.read key = other.read key := by
  rw [TreeStore.read, TreeStore.read, agrees]

/-- What a deletion makes of the records before it drops a tree. -/
def trimmed (store : TreeStore) (environment : String) : Option String → TreeStore
  | none => store
  | some topic => (store.delete environment (some topic)).2

theorem tree_trimmed_of_ne (store : TreeStore) {environment other : String}
    (apart : other ≠ environment) (topic : Option String) :
    (store.trimmed environment topic).tree other = store.tree other := by
  cases topic with
  | none => rfl
  | some topic => rw [trimmed, (store.delete_spec environment _).2, if_neg apart]

/-- A deletion leaves nothing of an empty tree. -/
theorem kept_of_bare {environment : String} (bare : store.tree environment = .empty)
    (topic : Option String) : store.kept environment topic = .empty := by
  cases topic with
  | none => rfl
  | some topic =>
      rw [kept, bare]
      rfl

/-- A store agrees with what a deletion leaves if it differs in one tree alone. -/
theorem agrees_delete {environment : String} {topic : Option String}
    (own : store.tree environment = other.kept environment topic)
    (others : ∀ name ≠ environment, store.tree name = other.tree name) :
    store.Agrees (other.delete environment topic).2 := by
  intro name
  rw [(other.delete_spec environment topic).2]
  split
  case isTrue same => rw [same, own]
  case isFalse apart => exact others name apart

theorem ask_commit_of_ok {stamp : Instant} {key : TopicKey} {partition offset : Int}
    {record : TopicRecord} (storable : Storable partition offset)
    (reads : store.read key = .ok record) :
    ask store (.commit stamp key partition offset storable) =
      (.ok .done, store.put key.environment (Text.bytesOf key.topic)
        (record.set stamp partition offset).encode) := by
  have commits : OffsetStore.commit store stamp key partition offset =
      .ok (store.put key.environment (Text.bytesOf key.topic)
        (record.set stamp partition offset).encode) := congrArg (Except.map _) reads
  rw [ask, commits, settle]

theorem ask_commit_of_error {stamp : Instant} {key : TopicKey} {partition offset : Int}
    {fault : Error} (storable : Storable partition offset)
    (reads : store.read key = .error fault) :
    ask store (.commit stamp key partition offset storable) = (.error fault, store) := by
  have commits : OffsetStore.commit store stamp key partition offset = .error fault :=
    congrArg (Except.map _) reads
  rw [ask, commits, settle]

/-! ## Offsets that stay -/

/-- A store has an offset for a partition. -/
def Stores (store : TreeStore) (key : TopicKey) (partition offset : Int) : Prop :=
  ∃ record, store.read key = .ok record ∧ record.get? partition = some offset

theorem read_delete_of_not_isCovered (store : TreeStore) {environment : String}
    {topic : Option String} {key : TopicKey}
    (uncovered : ¬MemoryStore.isCovered environment topic key = true) :
    (store.delete environment topic).2.read key = store.read key := by
  rw [read, read, (store.delete_spec environment topic).2]
  by_cases same : key.environment = environment
  · subst same
    rw [if_pos rfl]
    cases topic with
    | none => simp [MemoryStore.isCovered] at uncovered
    | some topic =>
        have apart : compare (Text.bytesOf key.topic) (Text.bytesOf topic) ≠ .eq := by
          intro equal
          apply uncovered
          simp [MemoryStore.isCovered, Text.bytesOf_injective (Std.LawfulEqOrd.eq_of_compare equal)]
        rw [kept, OrderedMap.get?_erase, if_neg apart]
  · rw [if_neg same]

/-- A commit that is answered with success has its offset stored. -/
theorem stores_ask_commit {stamp : Instant} {key : TopicKey} {partition offset : Int}
    (storable : Storable partition offset)
    (done : (ask store (.commit stamp key partition offset storable)).1 = .ok .done) :
    (ask store (.commit stamp key partition offset storable)).2.Stores key partition offset := by
  cases commits : OffsetStore.commit store stamp key partition offset with
  | error fault =>
      rw [ask, commits] at done
      cases done
  | ok changed =>
      rcases read_of_commit storable commits with ⟨record, -, reads, -⟩
      rw [ask, commits]
      exact ⟨_, reads, OrderedMap.get?_insert_self _ _ _⟩

/-- An offset stays through every change that does not replace it. -/
theorem Stores.ask {key : TopicKey} {partition offset : Int}
    (stores : store.Stores key partition offset) {change : Change}
    (spared : ¬change.request.Replaces key partition) :
    (ask store change.request).2.Stores key partition offset := by
  rcases stores with ⟨record, reads, found⟩
  cases change with
  | delete environment topic =>
      exact ⟨record, (store.read_delete_of_not_isCovered spared).trans reads, found⟩
  | commit stamp other number value storable =>
      rw [Change.request, Store.ask]
      cases commits : OffsetStore.commit store stamp other number value with
      | error fault => exact ⟨record, reads, found⟩
      | ok changed =>
          rcases read_of_commit storable commits with ⟨before, readsBefore, changes, kept⟩
          by_cases same : key = other
          · subst same
            cases reads.symm.trans readsBefore
            have apart : partition ≠ number := fun equal => spared ⟨rfl, equal.symm⟩
            exact ⟨_, changes, (OrderedMap.get?_insert_of_ne _ _ apart).trans found⟩
          · exact ⟨record, (kept key same).trans reads, found⟩

end TreeStore

/-! ## Trees behind handles -/

/-- The trees of a store that many calls use. -/
structure Forest where
  store : TreeStore
  /-- How often the tree of an environment was dropped. -/
  drops : String → Nat := fun _ => 0

/-- What a call has of a tree that it has opened. -/
structure Handle where
  environment : String
  /-- How often the tree of the environment had been dropped before. -/
  age : Nat

namespace Forest

/-- Whether an environment has a tree. -/
def has (forest : Forest) (environment : String) : Bool :=
  forest.store.trees.contains (treeName environment)

/-- Opens the tree of an environment, which is made if there is none. -/
def plant (forest : Forest) (environment : String) : Forest :=
  if forest.has environment then forest
  else { forest with store := ⟨forest.store.trees.insert (treeName environment) .empty⟩ }

/-- Drops the tree of an environment. -/
def fell (forest : Forest) (environment : String) : Forest :=
  if forest.has environment then
    { store := ⟨forest.store.trees.erase (treeName environment)⟩
      drops := Function.update forest.drops environment (forest.drops environment + 1) }
  else forest

/-- The handle of a tree that is opened now. -/
def handle (forest : Forest) (environment : String) : Handle :=
  ⟨environment, forest.drops environment⟩

/-- A handle is of a tree that was not dropped since. -/
def Holds (forest : Forest) (handle : Handle) : Prop :=
  handle.age = forest.drops handle.environment

instance (forest : Forest) (handle : Handle) : Decidable (forest.Holds handle) :=
  inferInstanceAs (Decidable (_ = _))

variable (gone? : Option Error)

/-- The tree behind a handle. One that was dropped is empty or cannot be reached. -/
def reach (forest : Forest) (handle : Handle) : Except Error Tree :=
  if forest.Holds handle then .ok (forest.store.tree handle.environment)
  else
    match gone? with
    | none => .ok .empty
    | some fault => .error fault

/-- The record of a topic in the tree behind a handle. -/
def read (forest : Forest) (handle : Handle) (topic : String) : Except Error TopicRecord := do
  match (← forest.reach gone? handle).get? (Text.bytesOf topic) with
  | some bytes => TreeStore.decode bytes
  | none => .ok {}

/-- Whether the tree behind a handle is found to be empty. -/
def isBare (forest : Forest) (handle : Handle) : Bool :=
  match forest.reach gone? handle with
  | .ok tree => tree.isEmpty
  | .error _ => false

/-- Changes the tree behind a handle. One that was dropped cannot be changed. -/
def replace (forest : Forest) (handle : Handle) (tree : Tree) : Forest :=
  if forest.Holds handle then
    { forest with
      store := ⟨forest.store.trees.insert (treeName handle.environment) tree⟩ }
  else forest

variable {gone?} {forest : Forest} {handle : Handle}

theorem tree_of_not_has {environment : String} (absent : forest.has environment = false) :
    forest.store.tree environment = .empty :=
  TreeStore.tree_of_get?_eq_none
    (Option.isNone_iff_eq_none.mp (Option.isSome_eq_false_iff.mp absent))

@[simp]
theorem tree_plant (forest : Forest) (environment other : String) :
    (forest.plant environment).store.tree other = forest.store.tree other := by
  rw [plant]
  split
  case isTrue => rfl
  case isFalse absent =>
    rw [TreeStore.tree_insert]
    split
    case isTrue same =>
      subst same
      exact (tree_of_not_has (Bool.eq_false_iff.mpr absent)).symm
    case isFalse => rfl

@[simp]
theorem drops_plant (forest : Forest) (environment : String) :
    (forest.plant environment).drops = forest.drops := by
  rw [plant]
  split <;> rfl

theorem holds_handle_plant (forest : Forest) (environment : String) :
    (forest.plant environment).Holds (forest.handle environment) := by
  rw [Holds, drops_plant]
  rfl

theorem tree_fell (forest : Forest) (environment other : String) :
    (forest.fell environment).store.tree other =
      if other = environment then .empty else forest.store.tree other := by
  rw [fell]
  split
  case isTrue => exact TreeStore.tree_erase _ _ _
  case isFalse absent =>
    split
    case isTrue same =>
      subst same
      exact tree_of_not_has (Bool.eq_false_iff.mpr absent)
    case isFalse => rfl

theorem drops_fell_of_ne (forest : Forest) {environment other : String}
    (apart : other ≠ environment) : (forest.fell environment).drops other = forest.drops other := by
  rw [fell]
  split
  case isTrue => exact Function.update_of_ne apart _ _
  case isFalse => rfl

theorem reach_of_holds (holds : forest.Holds handle) :
    forest.reach gone? handle = .ok (forest.store.tree handle.environment) :=
  if_pos holds

theorem read_of_holds (holds : forest.Holds handle) (topic : String) :
    forest.read gone? handle topic = forest.store.read ⟨handle.environment, topic⟩ := by
  rw [read, reach_of_holds holds]
  rfl

/-- Behind a handle of a tree that was dropped nothing is found, or it is refused. -/
theorem read_of_not_holds (dropped : ¬forest.Holds handle) (topic : String) :
    forest.read gone? handle topic =
      match gone? with
      | none => .ok {}
      | some fault => .error fault := by
  have reached : forest.reach gone? handle = match gone? with
      | none => .ok .empty
      | some fault => .error fault := if_neg dropped
  rw [read, reached]
  cases gone? <;> rfl

theorem isBare_of_holds (holds : forest.Holds handle) :
    forest.isBare gone? handle = (forest.store.tree handle.environment).isEmpty := by
  rw [isBare, reach_of_holds holds]

theorem tree_replace (holds : forest.Holds handle) (tree : Tree) (other : String) :
    (forest.replace handle tree).store.tree other =
      if other = handle.environment then tree else forest.store.tree other := by
  rw [replace, if_pos holds]
  exact TreeStore.tree_insert _ _ _ _

@[simp]
theorem drops_replace (forest : Forest) (handle : Handle) (tree : Tree) :
    (forest.replace handle tree).drops = forest.drops := by
  rw [replace]
  split <;> rfl

/-- A forest agrees with what is made of its store where the tree behind a handle is changed. -/
theorem agrees_replace {made after : TreeStore} {tree : Tree} (agrees : forest.store.Agrees made)
    (holds : forest.Holds handle)
    (changes : ∀ other, after.tree other =
      if other = handle.environment then tree else made.tree other) :
    (forest.replace handle tree).store.Agrees after := by
  intro other
  rw [tree_replace holds, changes, agrees]

end Forest

/-! ## Steps of a call -/

/-- How far a call has come that changes a store. -/
inductive Phase where
  | waiting
  /-- It has taken the lock. -/
  | entered
  /-- It has seen that there is a tree to delete from. -/
  | noticed
  | opened (handle : Handle)
  /-- It has read the record that it is to change. -/
  | found (handle : Handle) (record : TopicRecord)
  /-- It has counted what it deletes, and has removed it unless all is to be dropped. -/
  | taken (handle : Handle) (count : Nat)
  /-- It is to drop the tree. -/
  | dropping (count : Nat)
  /-- It is done and has the lock still. -/
  | leaving (answer : Except Error Answer)
  | returned (answer : Except Error Answer)

namespace Phase

/-- Whether a call has the lock. -/
def IsInside : Phase → Prop
  | waiting | returned _ => False
  | entered | noticed | opened _ | found _ _ | taken _ _ | dropping _ | leaving _ => True

end Phase

/-- The ways in which a call goes on that has the lock: how far it comes, and what it leaves
of the trees. -/
inductive Move (gone? : Option Error) (forest : Forest) : Change → Phase → Phase → Forest → Prop
  | openTree {stamp : Instant} {key : TopicKey} {partition offset : Int}
      {storable : Storable partition offset} :
      Move gone? forest (.commit stamp key partition offset storable) .entered
        (.opened (forest.handle key.environment)) (forest.plant key.environment)
  | readRecord {stamp : Instant} {key : TopicKey} {partition offset : Int}
      {storable : Storable partition offset} {handle : Handle} {record : TopicRecord}
      (found : forest.read gone? handle key.topic = .ok record) :
      Move gone? forest (.commit stamp key partition offset storable) (.opened handle)
        (.found handle record) forest
  | readFails {stamp : Instant} {key : TopicKey} {partition offset : Int}
      {storable : Storable partition offset} {handle : Handle} {fault : Error}
      (fails : forest.read gone? handle key.topic = .error fault) :
      Move gone? forest (.commit stamp key partition offset storable) (.opened handle)
        (.leaving (.error fault)) forest
  | insertRecord {stamp : Instant} {key : TopicKey} {partition offset : Int}
      {storable : Storable partition offset} {handle : Handle} {record : TopicRecord} {tree : Tree}
      (reached : forest.reach gone? handle = .ok tree) :
      Move gone? forest (.commit stamp key partition offset storable) (.found handle record)
        (.leaving (.ok .done))
        (forest.replace handle
          (tree.insert (Text.bytesOf key.topic) (record.set stamp partition offset).encode))
  | insertFails {stamp : Instant} {key : TopicKey} {partition offset : Int}
      {storable : Storable partition offset} {handle : Handle} {record : TopicRecord}
      {fault : Error} (refused : forest.reach gone? handle = .error fault) :
      Move gone? forest (.commit stamp key partition offset storable) (.found handle record)
        (.leaving (.error fault)) forest
  | missTree {environment : String} {topic : Option String}
      (absent : forest.has environment = false) :
      Move gone? forest (.delete environment topic) .entered (.leaving (.ok (.removed 0))) forest
  | noticeTree {environment : String} {topic : Option String}
      (present : forest.has environment = true) :
      Move gone? forest (.delete environment topic) .entered .noticed forest
  | reopenTree {environment : String} {topic : Option String} :
      Move gone? forest (.delete environment topic) .noticed
        (.opened (forest.handle environment)) (forest.plant environment)
  | removeRecord {environment topic : String} {handle : Handle} {tree : Tree}
      (reached : forest.reach gone? handle = .ok tree) :
      Move gone? forest (.delete environment (some topic)) (.opened handle)
        (.taken handle (tree.contains (Text.bytesOf topic)).toNat)
        (forest.replace handle (tree.erase (Text.bytesOf topic)))
  | countRecords {environment : String} {handle : Handle} {tree : Tree}
      (reached : forest.reach gone? handle = .ok tree) :
      Move gone? forest (.delete environment none) (.opened handle)
        (.taken handle tree.size) forest
  | takeFails {environment : String} {topic : Option String} {handle : Handle} {fault : Error}
      (refused : forest.reach gone? handle = .error fault) :
      Move gone? forest (.delete environment topic) (.opened handle)
        (.leaving (.error fault)) forest
  | spareTree {environment topic : String} {handle : Handle} {count : Nat}
      (filled : forest.isBare gone? handle = false) :
      Move gone? forest (.delete environment (some topic)) (.taken handle count)
        (.leaving (.ok (.removed count))) forest
  | condemnTree {environment : String} {topic : Option String} {handle : Handle} {count : Nat}
      (useless : topic = none ∨ forest.isBare gone? handle = true) :
      Move gone? forest (.delete environment topic) (.taken handle count)
        (.dropping count) forest
  | dropTree {environment : String} {topic : Option String} {count : Nat} :
      Move gone? forest (.delete environment topic) (.dropping count)
        (.leaving (.ok (.removed count))) (forest.fell environment)

section

variable {gone? : Option Error} {forest after : Forest} {change : Change} {phase next : Phase}

theorem Move.isInside (move : Move gone? forest change phase next after) :
    phase.IsInside ∧ next.IsInside := by
  cases move <;> exact ⟨trivial, trivial⟩

/-- A tree that is held stays held, unless a deletion drops it. -/
theorem Move.holds_or (move : Move gone? forest change phase next after) {handle : Handle}
    (holds : forest.Holds handle) :
    after.Holds handle ∨ ∃ topic count, change = .delete handle.environment topic ∧
      phase = .dropping count := by
  cases move with
  | openTree | reopenTree =>
      rw [Forest.Holds, Forest.drops_plant]
      exact .inl holds
  | insertRecord | removeRecord =>
      rw [Forest.Holds, Forest.drops_replace]
      exact .inl holds
  | @dropTree environment topic count =>
      by_cases same : handle.environment = environment
      · exact .inr ⟨topic, count, by rw [same], rfl⟩
      · rw [Forest.Holds, Forest.drops_fell_of_ne _ same]
        exact .inl holds
  | readRecord | readFails | insertFails | missTree | noticeTree | countRecords | takeFails
  | spareTree | condemnTree => exact .inl holds

end

/-- What is true of a call that has the lock, where `made` is what the calls before it have
made of the store. -/
inductive Stands (made : TreeStore) (forest : Forest) : Change → Phase → Prop
  | entered {change : Change} (agrees : forest.store.Agrees made) :
      Stands made forest change .entered
  | noticed {environment : String} {topic : Option String} (agrees : forest.store.Agrees made) :
      Stands made forest (.delete environment topic) .noticed
  | opened {change : Change} {handle : Handle} (agrees : forest.store.Agrees made)
      (holds : forest.Holds handle) (own : handle.environment = change.environment) :
      Stands made forest change (.opened handle)
  | found {stamp : Instant} {key : TopicKey} {partition offset : Int}
      {storable : Storable partition offset} {handle : Handle} {record : TopicRecord}
      (agrees : forest.store.Agrees made) (holds : forest.Holds handle)
      (own : handle.environment = key.environment) (reads : made.read key = .ok record) :
      Stands made forest (.commit stamp key partition offset storable) (.found handle record)
  | taken {environment : String} {topic : Option String} {handle : Handle}
      (agrees : forest.store.Agrees (made.trimmed environment topic))
      (holds : forest.Holds handle) (own : handle.environment = environment) :
      Stands made forest (.delete environment topic)
        (.taken handle (made.delete environment topic).1)
  | dropping {environment : String} {topic : Option String}
      (agrees : forest.store.Agrees (made.trimmed environment topic))
      (bare : made.kept environment topic = .empty) :
      Stands made forest (.delete environment topic)
        (.dropping (made.delete environment topic).1)
  | leaving {change : Change} (agrees : forest.store.Agrees (ask made change.request).2) :
      Stands made forest change (.leaving (ask made change.request).1)

section

variable {gone? : Option Error} {made : TreeStore} {forest after : Forest} {change : Change}
  {phase next : Phase}

/-- The records are those before the call, or those after it. -/
theorem Stands.agrees_or (stands : Stands made forest change phase) :
    forest.store.Agrees made ∨ forest.store.Agrees (ask made change.request).2 := by
  cases stands with
  | entered agrees | noticed agrees | opened agrees | found agrees => exact .inl agrees
  | @taken _ topic _ agrees | @dropping _ topic agrees =>
      cases topic with
      | none => exact .inl agrees
      | some topic => exact .inr agrees
  | leaving agrees => exact .inr agrees

/-- A call that is done has the answer that it would have alone, and has left what it would. -/
theorem Stands.of_leaving {answer : Except Error Answer}
    (stands : Stands made forest change (.leaving answer)) :
    answer = (ask made change.request).1 ∧
      forest.store.Agrees (ask made change.request).2 := by
  cases change <;> cases stands with
  | leaving agrees => exact ⟨rfl, agrees⟩

/-- A deletion that is to drop a tree leaves nothing of it. -/
theorem Stands.bare_of_dropping {environment : String} {topic : Option String} {count : Nat}
    (stands : Stands made forest (.delete environment topic) (.dropping count)) :
    (ask made (Change.delete environment topic).request).2.tree environment = .empty := by
  cases stands with
  | dropping _ bare => exact ((made.delete_spec environment topic).2 environment).trans (by
      rw [if_pos rfl, bare])

/-- Opening a tree changes nothing for the call that has the lock. -/
theorem Stands.plant (stands : Stands made forest change phase) (environment : String) :
    Stands made (forest.plant environment) change phase := by
  have agrees_plant {store : TreeStore} (agrees : forest.store.Agrees store) :
      (forest.plant environment).store.Agrees store := by
    intro other
    rw [Forest.tree_plant, agrees]
  have holds_plant {handle : Handle} (holds : forest.Holds handle) :
      (forest.plant environment).Holds handle := by
    rw [Forest.Holds, Forest.drops_plant]
    exact holds
  cases stands with
  | entered agrees => exact .entered (agrees_plant agrees)
  | noticed agrees => exact .noticed (agrees_plant agrees)
  | opened agrees holds own => exact .opened (agrees_plant agrees) (holds_plant holds) own
  | found agrees holds own reads =>
      exact .found (agrees_plant agrees) (holds_plant holds) own reads
  | taken agrees holds own => exact .taken (agrees_plant agrees) (holds_plant holds) own
  | dropping agrees bare => exact .dropping (agrees_plant agrees) bare
  | leaving agrees => exact .leaving (agrees_plant agrees)

theorem Stands.leaving_of_ask {answer : Except Error Answer} {store : TreeStore}
    (asks : ask made change.request = (answer, store)) (agrees : forest.store.Agrees store) :
    Stands made forest change (.leaving answer) := by
  have leaves : forest.store.Agrees (ask made change.request).2 →
      Stands made forest change (.leaving (ask made change.request).1) := .leaving
  rw [asks] at leaves
  exact leaves agrees

/-- What a deletion counts is what it takes from one tree. -/
theorem Stands.taken_of_tree {environment : String} {topic : Option String} {handle : Handle}
    (agrees : forest.store.Agrees (made.trimmed environment topic)) (holds : forest.Holds handle)
    (own : handle.environment = environment) {count : Nat}
    (counts : (made.kept environment topic).size + count = (made.tree environment).size) :
    Stands made forest (.delete environment topic) (.taken handle count) := by
  have count_eq : count = (made.delete environment topic).1 := by
    rw [(made.delete_spec environment topic).1, ← counts, Nat.add_sub_cancel_left]
  rw [count_eq]
  exact .taken agrees holds own

/-- Every step of the call that has the lock keeps what is true of it. -/
theorem Stands.move (stands : Stands made forest change phase)
    (move : Move gone? forest change phase next after) : Stands made after change next := by
  cases move with
  | openTree =>
      cases stands.plant _ with
      | entered agrees => exact .opened agrees (forest.holds_handle_plant _) rfl
  | reopenTree =>
      cases stands.plant _ with
      | noticed agrees => exact .opened agrees (forest.holds_handle_plant _) rfl
  | readRecord found =>
      cases stands with
      | opened agrees holds own =>
          rw [Forest.read_of_holds holds, own, agrees.read] at found
          exact .found agrees holds own found
  | @readFails _ _ _ _ storable _ _ fails =>
      cases stands with
      | opened agrees holds own =>
          rw [Forest.read_of_holds holds, own, agrees.read] at fails
          exact .leaving_of_ask (TreeStore.ask_commit_of_error storable fails) agrees
  | @insertRecord _ _ _ _ storable handle _ _ reached =>
      cases stands with
      | found agrees holds own reads =>
          rw [Forest.reach_of_holds holds, own] at reached
          cases reached
          refine .leaving_of_ask (TreeStore.ask_commit_of_ok storable reads)
            (Forest.agrees_replace agrees holds ?_)
          intro other
          rw [TreeStore.tree_put, own, agrees]
  | insertFails refused =>
      cases stands with
      | found agrees holds =>
          rw [Forest.reach_of_holds holds] at refused
          cases refused
  | @missTree environment topic absent =>
      cases stands with
      | entered agrees =>
          have bare : made.tree environment = .empty :=
            (agrees environment).symm.trans (Forest.tree_of_not_has absent)
          have kept := TreeStore.kept_of_bare bare topic
          refine .leaving_of_ask (Prod.ext ?_ rfl) (TreeStore.agrees_delete ?_ fun _ _ => agrees _)
          · change Except.ok (Answer.removed (made.delete environment topic).1) = _
            rw [(made.delete_spec environment topic).1, bare, kept]
            rfl
          · rw [agrees, bare, kept]
  | noticeTree =>
      cases stands with
      | entered agrees => exact .noticed agrees
  | @removeRecord _ topic handle _ reached =>
      cases stands with
      | opened agrees holds own =>
          rw [Forest.reach_of_holds holds, own, agrees] at reached
          cases reached
          refine .taken_of_tree (Forest.agrees_replace agrees holds ?_) ?_ own
            (OrderedMap.size_erase_add _ _)
          · intro other
            rw [TreeStore.trimmed, (made.delete_spec _ _).2, own]
            rfl
          · rw [Forest.Holds, Forest.drops_replace]
            exact holds
  | countRecords reached =>
      cases stands with
      | opened agrees holds own =>
          rw [Forest.reach_of_holds holds, own, agrees] at reached
          cases reached
          exact .taken_of_tree agrees holds own (Nat.zero_add _)
  | takeFails refused =>
      cases stands with
      | opened agrees holds =>
          rw [Forest.reach_of_holds holds] at refused
          cases refused
  | spareTree =>
      cases stands with
      | taken agrees => exact .leaving agrees
  | @condemnTree environment topic _ _ useless =>
      cases stands with
      | taken agrees holds own =>
          refine .dropping agrees ?_
          cases topic with
          | none => rfl
          | some topic =>
              have bare := useless.resolve_left (Option.some_ne_none topic)
              rw [Forest.isBare_of_holds holds, own, agrees, TreeStore.trimmed,
                (made.delete_spec environment _).2, if_pos rfl] at bare
              exact OrderedMap.eq_empty_of_isEmpty bare
  | @dropTree environment topic =>
      cases stands with
      | dropping agrees bare =>
          refine .leaving (TreeStore.agrees_delete ?_ ?_)
          · rw [Forest.tree_fell, if_pos rfl, bare]
          · intro other apart
            rw [Forest.tree_fell, if_neg apart, agrees, made.tree_trimmed_of_ne apart]

/-- A call that has the lock can go on until it leaves. -/
theorem Stands.exists_move (stands : Stands made forest change phase) :
    (∃ answer, phase = .leaving answer) ∨
      ∃ next after, Move gone? forest change phase next after := by
  cases stands with
  | entered =>
      cases change with
      | commit => exact .inr ⟨_, _, .openTree⟩
      | delete environment topic =>
          cases present : forest.has environment with
          | false => exact .inr ⟨_, _, .missTree present⟩
          | true => exact .inr ⟨_, _, .noticeTree present⟩
  | noticed => exact .inr ⟨_, _, .reopenTree⟩
  | @opened _ handle agrees holds own =>
      cases change with
      | commit _ key =>
          cases reads : forest.read gone? handle key.topic with
          | ok => exact .inr ⟨_, _, .readRecord reads⟩
          | error => exact .inr ⟨_, _, .readFails reads⟩
      | delete _ topic =>
          cases topic with
          | none => exact .inr ⟨_, _, .countRecords (Forest.reach_of_holds holds)⟩
          | some => exact .inr ⟨_, _, .removeRecord (Forest.reach_of_holds holds)⟩
  | found _ holds => exact .inr ⟨_, _, .insertRecord (Forest.reach_of_holds holds)⟩
  | @taken _ topic handle =>
      cases topic with
      | none => exact .inr ⟨_, _, .condemnTree (.inl rfl)⟩
      | some =>
          cases bare : forest.isBare gone? handle with
          | false => exact .inr ⟨_, _, .spareTree bare⟩
          | true => exact .inr ⟨_, _, .condemnTree (.inr bare)⟩
  | dropping => exact .inr ⟨_, _, .dropTree⟩
  | leaving => exact .inl ⟨_, rfl⟩

end

end TopicReplay.Store
