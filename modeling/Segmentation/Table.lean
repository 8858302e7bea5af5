import Segmentation.Text.Markup
import Segmentation.Text.Wrap

/-!
# Tables

A table is shown with a frame of lines, its title above it in the middle. Columns are as wide as
their widest cell, with a space on both sides. Widths are taken before tabs become spaces, so a cell
with tabs may be set in several lines or be cut. Titles and cells may hold markup.
-/

namespace Segmentation

/-- The side of a column on which its cells begin or end. -/
inductive Side where
  | left
  | right
  deriving DecidableEq, Repr

/-- A column of a table. -/
structure Column where
  heading : String
  side : Side := .left

/-- A table. Every row has one cell for each column. -/
structure Table where
  title : Text
  columns : List Column
  rows : List (List Text)

namespace Table

/-! ## Lines of text in a given width -/

/-- A line of a cell that takes at most `width` columns. A longer one ends with an ellipsis. -/
def shortened (width : Nat) (line : Text) : Text :=
  if line.cells ≤ width then line else Text.fitted (width - 1) line ++ ['…']

/-- A line on one side of the given width. -/
def aligned (side : Side) (width : Nat) (line : Text) : Text :=
  match side with
  | .left =>
      let line := shortened width line
      line ++ Text.spaces (width - line.cells)
  | .right =>
      let line := shortened width line.trimEnd
      Text.spaces (width - line.cells) ++ line

/-- A line in the middle of the given width. An odd space goes to the right. -/
def centred (width : Nat) (line : Text) : Text :=
  let line := line.trimEnd
  let line := if line.cells ≤ width then line else Text.fitted width line
  let free := width - line.cells
  Text.spaces (free / 2) ++ line ++ Text.spaces (free - free / 2)

/-- The lines of a text in the given width. -/
def setIn (overflow : Text.Overflow) (width : Nat) (text : Text) : List Text :=
  text.lines.flatMap (Text.wrap overflow width)

/-! ## Frames -/

/-- A line with the given ends, with the given mark between its parts. -/
def framed (left between right : Char) (parts : List Text) : Text :=
  left :: ((parts.intersperse [between]).flatten ++ [right])

/-- A line of the frame. -/
def rule (left stroke between right : Char) (widths : List Nat) : Text :=
  framed left between right (widths.map fun width => List.replicate (width + 2) stroke)

/-- The lines of a row, as many as its highest cell has. -/
def rowLines (bar : Char) (columns : List (Side × Nat)) (cells : List Text) : List Text :=
  let cellLines := (columns.zip cells).map fun ((side, width), cell) =>
    (setIn .kept width cell).map (aligned side width)
  let height := (cellLines.map (·.length)).foldl max 0
  (List.range height).map fun index =>
    framed bar bar bar <|
      (columns.zip cellLines).map fun ((_, width), lines) =>
        ' ' :: (lines.getD index (Text.spaces width) ++ [' '])

/-- The number of columns that the widest line of a cell takes. -/
def widestLine (cell : Text) : Nat :=
  (cell.lineBreakPieces.map (·.cells)).foldl max 0

/-- The widths of the columns of a table. -/
def widths (table : Table) : List Nat :=
  let headings := table.columns.map fun column => widestLine column.heading.toList
  table.rows.foldl (fun widths row => (widths.zip row).map fun (width, cell) =>
    max width (widestLine cell)) headings

/-- The lines of a table whose texts are as they are shown. -/
def lines (table : Table) : List Text :=
  let widths := table.widths
  let columns := (table.columns.zip widths).map fun (column, width) => (column.side, width)
  let width := (widths.map (· + 3)).foldl (· + ·) 1
  (setIn .folded width table.title).map (centred width) ++
    [rule '┏' '━' '┳' '┓' widths] ++
    rowLines '┃' columns (table.columns.map (·.heading.toList)) ++
    [rule '┡' '━' '╇' '┩' widths] ++
    table.rows.flatMap (rowLines '│' columns) ++
    [rule '└' '─' '┴' '┘' widths]

/-- The table with its texts as they are shown. The cells are looked at before the title, row by
row. -/
def shown (table : Table) : Except MarkupFault Table := do
  let rows ← table.rows.mapM (·.mapM (·.shown))
  let title ← table.title.shown
  return { table with title, rows }

/-- The table as a text in which every line ends. -/
def toText (table : Table) : Except MarkupFault Text :=
  table.shown.map fun table => table.lines.flatMap (· ++ ['\n'])

end Table

end Segmentation
