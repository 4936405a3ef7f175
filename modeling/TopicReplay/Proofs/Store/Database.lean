import TopicReplay.Disk
import TopicReplay.Proofs.Store.Tree

/-!
# Databases

A database is a tree store that is open in a directory of a disk, where every change is
kept before it is answered. Closing it loses nothing: the store that is found when the
directory is opened again is the one that was kept last.

The main statement is `faithful`.
-/

namespace TopicReplay

namespace Disk

variable {disk : Disk} {path : String} {found : Store.TreeStore}

/-- What a directory has to be like for its store to open. -/
theorem openStore_eq_ok_iff :
    disk.openStore path = .ok found ↔
      ¬disk.isBlocked (disk.route path) = true ∧
        ¬(disk.files.lookup (disk.route path)).isSome = true ∧ disk.route path ∉ disk.held ∧
        (disk.stores.lookup (disk.route path)).getD {} = found := by
  simp only [Disk.openStore]
  split
  case isTrue blocked => simp [blocked]
  case isFalse clear =>
    split
    case isTrue file => simp [file]
    case isFalse noFile =>
      split
      case isTrue held => simp [held]
      case isFalse free => simp [clear, noFile, free]

/-- A directory that was opened once opens again, with the store that was kept in it last. -/
theorem openStore_saveStore (opened : disk.openStore path = .ok found) (store : Store.TreeStore) :
    (disk.saveStore path store).openStore path = .ok store := by
  rcases openStore_eq_ok_iff.mp opened with ⟨clear, noFile, free, -⟩
  have kept : (disk.saveStore path store).stores.lookup (disk.route path) = some store :=
    List.lookup_cons_self
  refine openStore_eq_ok_iff.mpr ⟨clear, noFile, free, ?_⟩
  change ((disk.saveStore path store).stores.lookup (disk.route path)).getD {} = store
  rw [kept]
  rfl

end Disk

namespace Store

/-- A tree store that is open in a directory of a disk. -/
structure Database where
  disk : Disk
  path : String
  store : TreeStore

namespace Database

/-- Opens the store in a directory of a disk. -/
def load (disk : Disk) (path : String) : Except Error Database :=
  match (Disk.asFiles.openStore path).run disk with
  | (.ok store, disk) => .ok { disk, path, store }
  | (.error fault, _) => .error fault

/-- Keeps a changed store in its directory. -/
def keep (database : Database) (store : TreeStore) : Database :=
  { database with
    disk := ((Disk.asFiles.saveStore database.path store).run database.disk).2
    store }

instance : OffsetStore Database where
  read database := database.store.read
  commit database now key partition offset :=
    (database.store.commit now key partition offset).map database.keep
  list database := database.store.list
  delete database environment topic :=
    let (count, store) := database.store.delete environment topic
    (count, database.keep store)

/-- A database is found again in its directory. -/
instance : Reopens Database where
  reopen database := load database.disk database.path

/-- A database keeps the law of the store that it holds. -/
instance : LawfulStore Database where
  storedOffset?_commit := by
    intro database after stamp environment place next storable done
    have mapped : (database.store.commit stamp ⟨environment, place.topic⟩ place.partition
        next).map database.keep = .ok after := done
    cases committed : database.store.commit stamp ⟨environment, place.topic⟩ place.partition next
    case error fault =>
      rw [committed] at mapped
      cases mapped
    case ok store =>
      rw [committed] at mapped
      cases mapped
      rcases TreeStore.read_of_commit storable committed with ⟨record, before, changed, kept⟩
      exact storedOffset?_of_reads before changed kept

/-! ## Views of databases -/

/-- A database holds the records of a view, and would be found again with them. -/
structure Shows (database : Database) (view : View) : Prop where
  held : database.store.Shows view
  saved : database.disk.openStore database.path = .ok database.store

/-- A directory with a store that shows a view opens as a database that shows it. -/
theorem exists_load {disk : Disk} {path : String} {found : TreeStore} {view : View}
    (opened : disk.openStore path = .ok found) (held : found.Shows view) :
    ∃ database, load disk path = .ok database ∧ database.Shows view := by
  have run : (Disk.asFiles.openStore path).run disk =
      (.ok found, disk.saveStore path found) := by
    simp only [Disk.asFiles, StateT.run_bind, StateT.run_get, pure_bind, opened]
    rfl
  have loaded : load disk path =
      .ok { disk := disk.saveStore path found, path, store := found } := by
    rw [load, run]
  exact ⟨_, loaded, held, Disk.openStore_saveStore opened found⟩

section

variable {database : Database} {view : View}

theorem Shows.keep (shows : database.Shows view) {store : TreeStore} {after : View}
    (held : store.Shows after) : (database.keep store).Shows after where
  held := held
  saved := Disk.openStore_saveStore shows.saved store

/-- A commit succeeds and is kept. -/
theorem Shows.commit (shows : database.Shows view) (stamp : Instant) (key : TopicKey)
    {partition offset : Int} (storable : Storable partition offset) :
    ∃ after, OffsetStore.commit database stamp key partition offset = .ok after ∧
      after.Shows (view.next (.commit stamp key partition offset storable)) := by
  rcases shows.held.commit stamp key storable with ⟨store, done, held⟩
  exact ⟨database.keep store, congrArg (Except.map database.keep) done, shows.keep held⟩

/-- A database that is closed opens again and shows what it showed. -/
theorem Shows.reopen (shows : database.Shows view) :
    ∃ after, Reopens.reopen database = .ok after ∧ after.Shows view :=
  exists_load shows.saved shows.held

end

/-- Databases answer as the views that they show, closed in between or not. -/
theorem faithful : Faithful Database Shows where
  gives := by
    intro database view shows request
    cases request with
    | commit stamp key partition offset storable =>
        rcases shows.commit stamp key storable with ⟨after, done, -⟩
        rw [ask, done]
        rfl
    | delete environment topic => exact ⟨_, rfl, shows.held.loses environment topic⟩
    | read key => exact congrArg (Except.map Answer.record) (shows.held.read key)
    | list filter =>
        have rows := congrArg (Except.map Answer.listing) (shows.held.list filter)
        exact ⟨_, rows, shows.held.lists filter⟩
    | reopen =>
        rcases shows.reopen with ⟨after, done, -⟩
        rw [ask, done]
        rfl
  next := by
    intro database view shows request
    cases request with
    | commit stamp key partition offset storable =>
        rcases shows.commit stamp key storable with ⟨after, done, afterShows⟩
        rw [ask, done]
        exact afterShows
    | delete environment topic => exact shows.keep (shows.held.delete environment topic)
    | read | list => exact shows
    | reopen =>
        rcases shows.reopen with ⟨after, done, afterShows⟩
        rw [ask, done]
        exact afterShows

end Database

end Store

end TopicReplay
