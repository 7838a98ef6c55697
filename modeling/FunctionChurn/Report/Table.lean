import FunctionChurn.Report.Row
import FunctionChurn.Text.Escape
import FunctionChurn.Text.Search

/-!
# Reports as tables

A report is printed as a table in plain text: a line of titles, a line of dashes, and the rows, the
columns two spaces apart.  Texts lean to the left and numbers to the right.

* `Column` is a title with the side that its cells lean to; `reportColumns` are those of a report.
* `Cell.lines` are the lines of a cell, padded to the width of its column.
* `Table.render` prints a table, `renderReport` a report.

Escapes take no room.  If any text of the table holds a line end, every cell is taken apart into
lines and may take more than one.  A row whose first cell is a lone `U+0001` is not printed; a rule
stands in its place.
-/

namespace FunctionChurn

/-- The side that the cells of a column lean to. -/
inductive Side where
  | left
  | right
  deriving DecidableEq, Repr

/-- **A column**: its title, and the side its cells lean to. -/
structure Column where
  title : List Char
  side : Side

/-- How a table is drawn. -/
inductive TableStyle where
  /-- With a line of dashes under the titles. -/
  | simple
  /-- With nothing but the texts. -/
  | plain
  deriving DecidableEq, Repr

/-! ## Cells -/

namespace Cell

/-- Spaces. -/
def spaces (n : Nat) : List Char := List.replicate n ' '

/-- A text filled up with spaces to a length. -/
def pad (side : Side) (width : Nat) (cs : List Char) : List Char :=
  match side with
  | .left => cs ++ spaces (width - cs.length)
  | .right => spaces (width - cs.length) ++ cs

/-- How much room a line of text takes. -/
def room (cs : List Char) : Nat := (Text.visible cs).length

/-- The pieces of a text between carriage returns and line feeds. -/
def returns : List Char → List (List Char)
  | [] => [[]]
  | c :: rest =>
      if c = '\n' ∨ c = '\r' then [] :: returns rest
      else match returns rest with
        | piece :: pieces => (c :: piece) :: pieces
        | [] => [[c]]

/-- The characters of a cell, blanks at both ends left out. -/
def stripped (s : String) : List Char := Text.trimEnd (Text.trimStart s.toList)

end Cell

/-- **How the texts of a table are to be read**: whether cells are taken apart into lines, and
whether there are escapes among them. -/
structure TableMode where
  multiline : Bool
  escapes : Bool
  deriving DecidableEq, Repr

namespace TableMode

/-- The mode for the texts of a table, which are looked at as one text with tabs between them. -/
def of (texts : List (List Char)) : TableMode :=
  let all := (texts.intersperse ['\t']).flatten
  ⟨all.any fun c => c == '\n' || c == '\r', Text.hasEscape all⟩

/-- The pieces whose room counts for the width of a cell. -/
def measured (m : TableMode) (cs : List Char) : List (List Char) :=
  if m.multiline then Cell.returns cs else [cs]

/-- The room that a cell takes at its widest. -/
def room (m : TableMode) (cs : List Char) : Nat :=
  ((m.measured cs).map Cell.room).foldl max 0

/-- The lines that a cell is printed in. -/
def lines (m : TableMode) (cs : List Char) : List (List Char) :=
  if m.multiline then Text.linesBy Text.endsLine [] cs else [cs]

/-- **The lines of a cell padded to a width.**  Where there are escapes each line has to be filled
up by as much more as its escapes are long, and that is read off the measured piece of the same
number; a line without such a piece is lost. -/
def padded (m : TableMode) (side : Side) (width : Nat) (cs : List Char) : List (List Char) :=
  if m.multiline && !m.escapes then (m.lines cs).map (Cell.pad side width)
  else (m.lines cs).zipWith
    (fun line piece => Cell.pad side (width + (piece.length - Cell.room piece)) line)
    (m.measured cs)

end TableMode

/-! ## Tables -/

namespace Table

/-- The least space between a title and the next column, besides the gap between columns. -/
def titleRoom : Nat := 2

/-- A row of texts with the gap between columns, blanks at its end left out. -/
def textRow (cells : List (List Char)) : List Char :=
  Text.trimEnd ((cells.intersperse [' ', ' ']).flatten)

/-- The width of a column, given its cells. -/
def width (m : TableMode) (c : Column) (cells : List (List Char)) : Nat :=
  (cells.map m.room).foldl max (m.room c.title + titleRoom)

/-- The width of a column once its cells are padded, which lost lines cannot widen. -/
def paddedWidth (m : TableMode) (c : Column) (cells : List (List (List Char))) : Nat :=
  (cells.map fun lines => (lines.map Cell.room).foldl max 0).foldl max
    (m.room c.title + titleRoom)

/-- The line with a number, or blanks if a cell has no such line. -/
def lineOf (widths : List Nat) (cells : List (List (List Char))) (i : Nat) : List Char :=
  textRow (cells.zipWith (fun lines w => lines.getD i (Cell.spaces w)) widths)

/-- **The lines of a row**: as many as its tallest cell has. -/
def rowLines (widths : List Nat) (cells : List (List (List Char))) : List (List Char) :=
  (List.range ((cells.map List.length).foldl max 0)).map (lineOf widths cells)

/-- A line of dashes. -/
def rule (widths : List Nat) : List Char := textRow (widths.map fun w => List.replicate w '-')

/-- What stands in place of a row that is a rule. -/
def separator (style : TableStyle) (widths : List Nat) : List Char :=
  match style with
  | .simple => rule widths
  | .plain => []

/-- Whether a row is a rule. -/
def isRule (row : List String) : Bool :=
  match row with
  | cell :: _ => Cell.stripped cell == ['\x01']
  | [] => false

/-- The cells of a column of rows. -/
def columnCells (rows : List (List String)) (i : Nat) : List (List Char) :=
  rows.map fun row => Cell.stripped (row.getD i "")

/-- **The printed lines of all rows**, rules among them: `printed` are the lines of the rows that
are none. -/
def spliced (rule : List Char) : List (List String) → List (List (List Char)) → List (List Char)
  | [], _ => []
  | row :: rest, printed =>
      if isRule row then rule :: spliced rule rest printed
      else match printed with
        | lines :: others => lines ++ spliced rule rest others
        | [] => spliced rule rest []

/-- What stands under the titles. -/
def underline (style : TableStyle) (widths : List Nat) : List (List Char) :=
  match style with
  | .simple => [rule widths]
  | .plain => []

/-- **A table in plain text.**  Without rows all titles lean to the left. -/
def render (style : TableStyle) (columns : List Column) (rows : List (List String)) : String :=
  let body := rows.filter fun row => !isRule row
  let mode := TableMode.of (columns.map Column.title ++ body.flatten.map String.toList)
  let grid := columns.mapIdx fun i c =>
    let cells := columnCells body i
    cells.map (mode.padded c.side (width mode c cells))
  let widths := columns.zipWith (paddedWidth mode) grid
  let titles := columns.zipWith (fun c w =>
    Cell.pad (if body.isEmpty then .left else c.side) w c.title) widths
  let printed := (List.range body.length).map fun r =>
    rowLines widths (grid.map fun cells => cells.getD r [])
  let lines := textRow titles
    :: (underline style widths ++ spliced (separator style widths) rows printed)
  String.ofList ((lines.intersperse ['\n']).flatten)

end Table

/-! ## Reports -/

/-- **The columns of a report.** -/
def reportColumns : List Column :=
  [⟨"FILE".toList, .left⟩, ⟨"LINE".toList, .right⟩, ⟨"FUNCTION".toList, .left⟩,
    ⟨"FREQUENCY".toList, .right⟩]

/-- The cells of a row. -/
def Row.cells (r : Row) : List String := [r.file, toString r.line, r.name, toString r.freq]

/-- **A report as a table.**  The titles are there even without a row. -/
def renderReport (style : TableStyle) (rows : List Row) : String :=
  Table.render style reportColumns (rows.map Row.cells)

end FunctionChurn
