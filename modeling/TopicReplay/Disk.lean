import TopicReplay.Config.Load
import TopicReplay.Store.Tree

/-!
# File systems

`Files` is what a program needs of a file system: what a path leads to, and offset
stores that are opened and kept. `Disk` is a file system with nothing else in it:
plain files, and directories that hold stores.
-/

namespace TopicReplay

/-- What a program needs of a file system, in a monad `m`. -/
structure Files (m : Type → Type) where
  /-- What a path leads to. -/
  entry : String → m Config.Entry
  /-- Opens the offset store in a directory, which comes to be if it is not there. -/
  openStore : String → m (Except Store.Error Store.TreeStore)
  /-- Keeps an offset store in its directory. -/
  saveStore : String → Store.TreeStore → m Unit

/-- The parts of a path from the root. -/
abbrev Route := List String

/-- A file system that holds plain files and offset stores. -/
structure Disk where
  /-- The working directory. -/
  base : Route := []
  /-- The plain files with their texts. -/
  files : List (Route × String) := []
  /-- The directories with an offset store. -/
  stores : List (Route × Store.TreeStore) := []
  /-- The directories whose store is open elsewhere. -/
  held : List Route := []

namespace Disk

/-- Goes along one part of a path. -/
def go (route : Route) (part : String) : Route :=
  if part.isEmpty || part = "." then route
  else if part = ".." then route.dropLast
  else route ++ [part]

/-- The route that a path takes, from the working directory unless it is absolute. -/
def route (disk : Disk) (path : String) : Route :=
  (path.splitOn "/").foldl go (if path.startsWith "/" then [] else disk.base)

/-- The directories that are there, each with all above it. -/
def directories (disk : Disk) : List Route :=
  disk.base :: disk.stores.map (·.1) ++ disk.files.map fun (route, _) => route.dropLast

/-- What a path leads to. The empty path leads nowhere. -/
def entry (disk : Disk) (path : String) : Config.Entry :=
  let route := disk.route path
  if path.isEmpty then .absent
  else
    match disk.files.lookup route with
    | some text => if path.endsWith "/" then .absent else .file (some text)
    | none =>
        if disk.directories.any fun other => route.isPrefixOf other then .directory
        else .absent

/-- Whether a plain file stands above a route. -/
def isBlocked (disk : Disk) (route : Route) : Bool :=
  disk.files.any fun (file, _) => file.isPrefixOf route && file.length < route.length

/-- The store in a directory, which is empty where there was none. -/
def openStore (disk : Disk) (path : String) : Except Store.Error Store.TreeStore :=
  let route := disk.route path
  if disk.isBlocked route then .error (Store.DirectoryFault.notADirectory.toError path)
  else if (disk.files.lookup route).isSome then
    .error (Store.DirectoryFault.fileExists.toError path)
  else if route ∈ disk.held then .error Store.heldError
  else .ok ((disk.stores.lookup route).getD {})

/-- Keeps a store in a directory. -/
def saveStore (disk : Disk) (path : String) (store : Store.TreeStore) : Disk :=
  let route := disk.route path
  { disk with stores := (route, store) :: disk.stores.filter fun (other, _) => other ≠ route }

/-- A disk as a file system. -/
def asFiles : Files (StateM Disk) where
  entry path := do return (← get).entry path
  openStore path := do
    let opened := (← get).openStore path
    if let .ok store := opened then modify fun disk => disk.saveStore path store
    return opened
  saveStore path store := modify fun disk => disk.saveStore path store

end Disk

end TopicReplay
