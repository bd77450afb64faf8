import LedgerBoard.Dashboard.Row
import LedgerBoard.Screen.Border

/-!
# Tables

A table shows the newest rows of a list below a header, inside a border whose title counts all rows.
Its columns are the time of arrival, the detail and the identifier.
-/

namespace LedgerBoard

/-- The titles of a table and of two of its columns. -/
structure TableTitles where
  title : String
  detail : String
  id : String
  deriving DecidableEq, Repr

namespace TableTitles

def blocks : TableTitles := ⟨"Blocks", "Index", "Hash"⟩

def transactions : TableTitles := ⟨"Transactions", "Author", "Tx Hash"⟩

end TableTitles

/-- The widths of the columns of a table. -/
structure ColumnWidths where
  time : Nat
  detail : Nat
  id : Nat
  deriving DecidableEq, Repr

namespace ColumnWidths

def timeWidth : Nat := 8

/-- The columns that a detail gets, if there is room. -/
def detailWidth : Nat := 12

/-- The fewest columns that an identifier gets, if there is room. -/
def idWidth : Nat := 10

/-- Divides a width among the columns, which are one column apart. The identifier gets its fewest
columns first and all that is left over; the time comes before the detail. -/
def ofWidth (width : Nat) : ColumnWidths :=
  let room := width - 2
  let id := min room idWidth
  let time := min (room - id) timeWidth
  let detail := min (room - id - time) detailWidth
  ⟨time, detail, room - time - detail⟩

end ColumnWidths

namespace Table

/-- The number of rows that fit below the header in a bordered area. -/
def capacity (area : Area) : Nat :=
  area.height - 3

/-- The rows that are shown: the newest ones. -/
def shown (area : Area) (rows : List Row) : List Row :=
  rows.drop (rows.length - capacity area)

def drawCells (area : Area) (time detail id : String) (canvas : Canvas) : Canvas :=
  let widths := ColumnWidths.ofWidth area.width
  let detailStart := area.x + widths.time + 1
  canvas
    |> Column.draw ⟨area.x, area.y, widths.time, area.height⟩ time
    |> Column.draw ⟨detailStart, area.y, widths.detail, area.height⟩ detail
    |> Column.draw ⟨detailStart + widths.detail + 1, area.y, widths.id, area.height⟩ id

def drawHeader (area : Area) (titles : TableTitles) (canvas : Canvas) : Canvas :=
  canvas
    |> Canvas.tint area { bold := true }
    |> drawCells area "Time" titles.detail titles.id

def drawRow (area : Area) (row : Row) (canvas : Canvas) : Canvas :=
  let widths := ColumnWidths.ofWidth area.width
  canvas
    |> Canvas.tint ⟨area.x, area.y, widths.time, area.height⟩ { color := some .darkGray }
    |> drawCells area row.arrival.text (row.detail.getD "") row.id

/-- Draws rows one below the other, the first one on a given line of an area. -/
def drawRows (area : Area) : Nat → List Row → Canvas → Canvas
  | _, [], canvas => canvas
  | index, row :: rest, canvas =>
      drawRows area (index + 1) rest (drawRow (area.line index) row canvas)

/-- The title of a table with a number of rows. -/
def title (titles : TableTitles) (count : Nat) : String :=
  " " ++ titles.title ++ " (" ++ String.ofList (Number.decimal count) ++ ") "

def draw (area : Area) (titles : TableTitles) (rows : List Row) (canvas : Canvas) : Canvas :=
  let framed := Border.drawTitled area (title titles rows.length) canvas
  let inner := area.inner
  if inner.isEmpty then framed
  else
    framed
      |> drawHeader (inner.line 0) titles
      |> drawRows inner 1 (shown area rows)

end Table

end LedgerBoard
