import TopicReplay.Broker.Unreachable
import TopicReplay.Command.Run
import TopicReplay.Store.Snapshot

/-!
# The program

The outer layer reads the environment, the clock and files, and prints what the run
of the program comes to. Brokers are out of reach from here. An offset store is one
file with its snapshot.
-/

namespace TopicReplay.Main

open Store (DirectoryFault TreeStore)

/-- The text of bytes, as far as they are text. -/
def textOf (bytes : ByteArray) : String := Text.lossyString bytes.toList

/-- The variables of the environment. -/
def environment : IO Config.Environment := do
  let entries ←
    try pure ((textOf (← IO.FS.readBinFile "/proc/self/environ")).splitOn "\x00")
    catch _ => pure []
  return entries.filterMap fun entry =>
    match entry.splitOn "=" with
    | name :: value :: rest => some (name, "=".intercalate (value :: rest))
    | _ => none

/-- The second at which the system was started, from its statistics. -/
def startSecond? (statistics : String) : Option Int :=
  (statistics.splitOn "\n").findSome? fun line =>
    match line.splitOn " " with
    | ["btime", second] => Text.signed? second.toList
    | _ => none

/-- The hundredths of seconds that the system has run. -/
def hundredths? (uptime : String) : Option Nat :=
  Text.digits? ((uptime.takeWhile (· != ' ')).toString.toList.filter (· != '.'))

/-- The present instant. -/
def now : IO Instant := do
  let start ← try pure (startSecond? (← IO.FS.readFile "/proc/stat")) catch _ => pure none
  let running ← try pure (hundredths? (← IO.FS.readFile "/proc/uptime")) catch _ => pure none
  let hundredths := running.getD 0
  let instant? :=
    Instant.ofParts? (start.getD 0 + (hundredths / 100 : Nat)) (hundredths % 100 * 10000000)
  return instant?.getD default

/-- What a path leads to. -/
def entry (path : String) : IO Config.Entry := do
  try return .file (some (← IO.FS.readFile path))
  catch e =>
    match e with
    | .noFileOrDirectory .. => return .absent
    | .inappropriateType .. => return .directory
    | _ => return .file none

/-- The file with the snapshot of a store. -/
def snapshotPath (path : String) : String := Config.pathBelow path "snapshot"

/-- The store of a snapshot, which is empty where there is none. -/
def readSnapshot (path : String) : IO TreeStore := do
  let bytes ←
    try pure (some (← IO.FS.readBinFile (snapshotPath path)))
    catch _ => pure none
  match bytes with
  | none => return {}
  | some bytes => return (Store.Snapshot.decode? bytes.toList).getD {}

/-- The fault of a directory that does not come to be. -/
def directoryFault : IO.Error → DirectoryFault
  | .alreadyExists .. => .fileExists
  | _ => .notADirectory

/-- Opens the store in a directory. -/
def openStore (path : String) : IO (Except Store.Error TreeStore) := do
  try
    IO.FS.createDirAll path
    return .ok (← readSnapshot path)
  catch e => return .error ((directoryFault e).toError path)

/-- Keeps a store in its directory. -/
def saveStore (path : String) (store : TreeStore) : IO Unit :=
  IO.FS.writeBinFile (snapshotPath path) ⟨(Store.Snapshot.encode store).toArray⟩

/-- The file system. -/
def files : Files IO := { entry, openStore, saveStore }

/-- Runs the program and gives its code. -/
def run (args : List String) : IO UInt32 := do
  let stdout ← IO.getStdout
  let around : Command.Surroundings :=
    { environment := ← environment, terminal := ← stdout.isTty, stamp := ← now }
  let connect (kafka : Config.Connection) := Broker.Unreachable.connect kafka.extra
  let outcome ← Command.run files connect around args
  stdout.putStr outcome.output
  (← IO.getStderr).putStr outcome.notes
  return outcome.code.toUInt32

end TopicReplay.Main

/-- Runs the program. -/
def main (args : List String) : IO UInt32 := TopicReplay.Main.run args
