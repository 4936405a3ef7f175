import TopicReplay.Text.Utf8
import TopicReplay.Time.Layout

/-!
# Offset store errors

What can go wrong when stored offsets are read, written or listed.
-/

namespace TopicReplay.Store

/-- What can go wrong with stored offsets. -/
inductive Error where
  /-- The medium that holds the offsets failed; `backend` names it. -/
  | backend (backend details : String)
  /-- A stored record cannot be written or read. -/
  | serialization (details : String)
  /-- A list filter is no regular expression. -/
  | invalidFilter (pattern details : String)
  deriving DecidableEq, Repr, Inhabited

/-- The text of an error. -/
def Error.message : Error → String
  | .backend medium details => "offset store backend error (" ++ medium ++ "): " ++ details
  | .serialization details => "offset record serialization error: " ++ details
  | .invalidFilter pattern details => "invalid filter '" ++ pattern ++ "': " ++ details

/-- A failure of the database that holds the records. -/
inductive DatabaseFault where
  | unsupported (text : String)
  | bug (text : String)
  | io (text : String)
  deriving DecidableEq, Repr

/-- The text of a database failure. -/
def DatabaseFault.text : DatabaseFault → String
  | .unsupported text => "Unsupported: " ++ text
  | .bug text => "Unexpected bug has happened: " ++ text ++ ". PLEASE REPORT THIS BUG!"
  | .io text => "IO error: " ++ text

/-- The error of the database that holds the records. -/
def databaseError (details : String) : Error := .backend "sled" details

/-- The error of a database failure. -/
def DatabaseFault.toError (fault : DatabaseFault) : Error := databaseError fault.text

/-- Why a directory does not come to be. -/
inductive DirectoryFault where
  /-- Something above it is a plain file. -/
  | notADirectory
  /-- It is a plain file itself. -/
  | fileExists
  deriving DecidableEq, Repr

/-- The text of a fault. -/
def DirectoryFault.text : DirectoryFault → String
  | .notADirectory => "Not a directory (os error 20)"
  | .fileExists => "File exists (os error 17)"

/-- The error of a directory that does not come to be. -/
def DirectoryFault.toError (fault : DirectoryFault) (path : String) : Error :=
  databaseError ("failed to create directory " ++ path ++ ": " ++ fault.text)

/-- The error of a database that is open elsewhere. -/
def heldError : Error := databaseError "failed to open database"

/-- A failure of writing or reading a record. -/
inductive RecordFault where
  | described (text : String)
  | io (text : String)
  | sizeLimit
  /-- The bytes end within the record. -/
  | truncated
  /-- The number that tells whether a part is there is neither 0 nor 1. -/
  | badTag (found : Nat)
  /-- The time of the record is no text. -/
  | notText (run : Text.BadRun)
  /-- The time of the record is text, but no instant. -/
  | notAnInstant (fault : Time.Fault)
  deriving DecidableEq, Repr

/-- The text of a record failure. -/
def RecordFault.text : RecordFault → String
  | .described text => text
  | .io text => "io error: " ++ text
  | .sizeLimit => "the size limit has been reached"
  | .truncated => "io error: unexpected end of file"
  | .badTag found => "tag for enum is not valid, found " ++ Text.decimalString found
  | .notText run => "string is not valid utf8: " ++ run.text
  | .notAnInstant fault => fault.text

/-- The error of a record failure. -/
def RecordFault.toError (fault : RecordFault) : Error := .serialization fault.text

/-- The error of a failure of the file system. -/
def fileError (text : String) : Error := .backend "filesystem" text

end TopicReplay.Store
