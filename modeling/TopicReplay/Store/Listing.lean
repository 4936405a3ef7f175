import TopicReplay.Event.Line
import TopicReplay.RemoteOffset
import TopicReplay.Text.Blank
import TopicReplay.Text.Style

/-!
# Offset listings

Stored offsets are listed with a row for each partition, as a table or as JSON. A
column of the table is as wide as its longest cell has bytes, and cells are filled
up to that many characters, so that every cell of a column starts at one place.
-/

namespace TopicReplay.Store

/-- One stored offset, perhaps with the end of its partition. -/
structure Row where
  environment : String
  topic : String
  partition : Int
  /-- The next offset to read. -/
  offset : Int
  updatedAt : Option Instant
  remote : Option RemoteOffset := none
  lag : Option Int := none
  deriving DecidableEq

namespace Listing

/-- What stands in a cell that has nothing to show. -/
def absent : String := "-"

/-- The titles of the columns that every table has. -/
def titles : List String := ["ENVIRONMENT", "TOPIC", "PARTITION", "OFFSET", "UPDATED"]

/-- The titles of the columns of a table with remote offsets. -/
def lagTitles : List String := ["REMOTE", "LAG"]

/-- The cells that every row has. -/
def cells (row : Row) : List String :=
  [row.environment, row.topic, Text.integerString row.partition, Text.integerString row.offset,
    (row.updatedAt.map fun t => String.ofList (t.text .seconds .letter)).getD absent]

/-- The cells of a row in a table with remote offsets. -/
def lagCells (row : Row) : List String :=
  [(row.remote.map RemoteOffset.display).getD absent,
    (row.lag.map Text.integerString).getD absent]

/-- Whether a table has remote offsets. -/
def withLag (rows : List Row) : Bool := rows.any fun row => row.remote.isSome

/-- The cells of the header. -/
def header (rows : List Row) : List String :=
  if withLag rows then titles ++ lagTitles else titles

/-- The cells below the header. -/
def body (rows : List Row) : List (List String) :=
  rows.map fun row => if withLag rows then cells row ++ lagCells row else cells row

/-- The greater widths of two lists, column by column. -/
def widen (widths others : List Nat) : List Nat := List.zipWith max widths others

/-- The widths of the columns: the most bytes that a cell has. -/
def widths (lines : List (List String)) (first : List String) : List Nat :=
  lines.foldl (fun widths line => widen widths (line.map String.utf8ByteSize))
    (first.map String.utf8ByteSize)

/-- Fills a cell with blanks up to a number of characters. -/
def fill (width : Nat) (cell : String) : List Char :=
  cell.toList ++ List.replicate (width - cell.length) ' '

/-- What stands between two columns. -/
def gap : List Char := [' ', ' ']

/-- A line of the table: the filled cells with gaps between them, cut at the end. -/
def line (widths : List Nat) (cells : List String) : String :=
  String.ofList (Text.trimRight (gap.intercalate (List.zipWith fill widths cells)))

/-- The table of rows, or a note that there are none. -/
def plain (coloured : Bool) (rows : List Row) : String :=
  if rows.isEmpty then Text.Style.dimmed.apply coloured "No stored offsets"
  else
    let columns := widths (body rows) (header rows)
    "\n".intercalate (Text.Style.bold.apply coloured (line columns (header rows)) ::
      (body rows).map (line columns))

/-- A row as JSON. -/
def rowToJson (row : Row) : Json :=
  .object ([
    ("environment", .string row.environment),
    ("topic", .string row.topic),
    ("partition", .int row.partition),
    ("offset", .int row.offset),
    ("updated_at", .ofOption (fun t => .string t.canonical) row.updatedAt)] ++
    (row.remote.map fun remote => ("remote", remote.toJson)).toList ++
    (row.lag.map fun lag => ("lag", Json.int lag)).toList)

/-- The rows as JSON on many lines. -/
def json (rows : List Row) : String := String.ofList (Json.array (rows.map rowToJson)).pretty

/-- The text of a listing. -/
def text (format : OutputFormat) (coloured : Bool) (rows : List Row) : String :=
  match format with
  | .plain => plain coloured rows
  | .json => json rows

end Listing

end TopicReplay.Store
