import TopicReplay.Store.Basic

/-!
# Stores of trees

A tree store is what a database holds: for every environment a tree of records in
their binary form, by the bytes of the topic's name. The name of a tree is that of
its environment behind a mark; trees without the mark belong to the database itself.
A record that cannot be read is an error where it is needed and stays as it is. A
tree that loses its last record is dropped.
-/

namespace TopicReplay.Store

open Text (Bytes)

/-- The records of one environment in their binary form, by topic. -/
abbrev Tree := OrderedMap Bytes Bytes

/-- A store that keeps records in their binary form, in trees with names. -/
structure TreeStore where
  trees : OrderedMap Bytes Tree := .empty
  deriving Inhabited

namespace TreeStore

/-- Reads a record in its binary form. -/
def decode (bytes : Bytes) : Except Error TopicRecord :=
  (TopicRecord.decode bytes).mapError RecordFault.toError

/-- What the name of an environment's tree begins with. -/
def mark : List Char := "env:".toList

/-- The name of an environment's tree. -/
def treeName (environment : String) : Bytes := Text.encodeUtf8 (mark ++ environment.toList)

/-- The environment whose tree has a name, if it has the mark. -/
def environment? (name : Bytes) : Option String :=
  match Text.decodeUtf8? name with
  | some cs => if mark.isPrefixOf cs then some (String.ofList (cs.drop mark.length)) else none
  | none => none

/-- The environments that have a tree, in order. -/
def environments (store : TreeStore) : List String :=
  (store.trees.keys.filterMap environment?).mergeSort fun first second =>
    compare first second != .gt

/-- The tree of an environment, which is empty where there is none. -/
def tree (store : TreeStore) (environment : String) : Tree :=
  store.trees.getD (treeName environment) .empty

/-- The record of a topic, which is empty where nothing is stored. -/
def read (store : TreeStore) (key : TopicKey) : Except Error TopicRecord :=
  match (store.tree key.environment).get? (Text.bytesOf key.topic) with
  | some bytes => decode bytes
  | none => .ok {}

/-- Puts bytes in the place of a topic's record. -/
def put (store : TreeStore) (environment : String) (topic record : Bytes) : TreeStore where
  trees :=
    store.trees.insert (treeName environment) ((store.tree environment).insert topic record)

/-- Stores the offset of a partition. -/
def commit (store : TreeStore) (now : Instant) (key : TopicKey) (partition offset : Int) :
    Except Error TreeStore :=
  (store.read key).map fun record =>
    store.put key.environment (Text.bytesOf key.topic) (record.set now partition offset).encode

/-- The stored offsets of the topics of one environment that a filter selects. -/
def listTree (filter : Filter) (environment : String) (tree : Tree) :
    Except Error (List StoredOffset) := do
  let selected := tree.toList.filter fun (topic, _) => filter.matchesTopic (Text.lossyString topic)
  let listed ← selected.mapM fun (topic, bytes) => do
    return (← decode bytes).stored ⟨environment, Text.lossyString topic⟩
  return listed.flatten

/-- The stored offsets that a filter selects. -/
def list (store : TreeStore) (filter : Filter) : Except Error (List StoredOffset) := do
  let selected := store.environments.filter filter.matchesEnvironment
  let listed ← selected.mapM fun environment =>
    listTree filter environment (store.tree environment)
  return listed.flatten

/-- Deletes one topic of an environment, or all, and counts the removed records. -/
def delete (store : TreeStore) (environment : String) (topic : Option String) :
    Nat × TreeStore :=
  let name := treeName environment
  match store.trees.get? name, topic with
  | none, _ => (0, store)
  | some tree, none => (tree.size, ⟨store.trees.erase name⟩)
  | some tree, some topic =>
      let kept := tree.erase (Text.bytesOf topic)
      let trees :=
        if kept.isEmpty then store.trees.erase name
        else store.trees.insert name kept
      (tree.size - kept.size, ⟨trees⟩)

instance : OffsetStore TreeStore where
  read := read
  commit := commit
  list := list
  delete := delete

end TreeStore

end TopicReplay.Store
