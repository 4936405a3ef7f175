import TopicReplay.Store.Tree
import TopicReplay.Text.Word

/-!
# Snapshots of stores

A snapshot holds a whole tree store in one sequence of bytes. A part whose length
may vary stands behind its length, and a list of parts behind their number, both as
words of eight bytes.
-/

namespace TopicReplay.Store.Snapshot

open Text (Bytes)

/-- How many bytes a number has. -/
def wordSize : Nat := 8

/-- A number. -/
def count (n : Nat) : Bytes := Text.word wordSize n

/-- Bytes behind their number. -/
def part (bytes : Bytes) : Bytes := count bytes.length ++ bytes

/-- A tree behind its name. -/
def tree (name : Bytes) (tree : Tree) : Bytes :=
  part name ++ count tree.size ++
    tree.toList.flatMap fun (topic, record) => part topic ++ part record

/-- The snapshot of a store. -/
def encode (store : TreeStore) : Bytes :=
  count store.trees.size ++
    store.trees.toList.flatMap fun (name, records) => tree name records

/-- Takes a number from the front. -/
def takeCount? (bytes : Bytes) : Option (Nat × Bytes) :=
  if bytes.length < wordSize then none
  else some (Text.wordValue (bytes.take wordSize), bytes.drop wordSize)

/-- Takes a part from the front. -/
def takePart? (bytes : Bytes) : Option (Bytes × Bytes) := do
  let (size, rest) ← takeCount? bytes
  if rest.length < size then none else return (rest.take size, rest.drop size)

/-- Takes so many records from the front and adds them to a tree. -/
def takeRecords? : Nat → Tree → Bytes → Option (Tree × Bytes)
  | 0, tree, bytes => some (tree, bytes)
  | more + 1, tree, bytes => do
      let (topic, rest) ← takePart? bytes
      let (record, rest) ← takePart? rest
      takeRecords? more (tree.insert topic record) rest

/-- Takes so many trees from the front and adds them to a store. -/
def takeTrees? : Nat → TreeStore → Bytes → Option (TreeStore × Bytes)
  | 0, store, bytes => some (store, bytes)
  | more + 1, store, bytes => do
      let (name, rest) ← takePart? bytes
      let (size, rest) ← takeCount? rest
      if rest.length < size then none
      else
        let (records, rest) ← takeRecords? size .empty rest
        takeTrees? more ⟨store.trees.insert name records⟩ rest

/-- The store of a snapshot. -/
def decode? (bytes : Bytes) : Option TreeStore := do
  let (size, rest) ← takeCount? bytes
  if rest.length < size then none
  else
    match ← takeTrees? size {} rest with
    | (store, []) => return store
    | _ => none

end TopicReplay.Store.Snapshot
