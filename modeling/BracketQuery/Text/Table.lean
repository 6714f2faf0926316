import BracketQuery.Text.Width

/-!
Tables in boxes. A column is as wide as its widest line, and a cell of several lines makes its row
as high.
-/

namespace BracketQuery.Text

/-- A horizontal line: its ends, what it is drawn with, and what it has between columns. -/
structure Rule where
  left : Char
  fill : Char
  crossing : Char
  right : Char

/-- How a box is drawn. -/
structure BoxStyle where
  top : Rule
  belowHeader : Rule
  /-- The line between rows, if there is one. -/
  betweenRows : Option Rule
  bottom : Rule
  left : Char
  betweenCells : Char
  right : Char

namespace BoxStyle

/-- Boxes of ASCII characters, with a line between rows. -/
def ascii : BoxStyle where
  top := ⟨'+', '-', '+', '+'⟩
  belowHeader := ⟨'+', '=', '=', '+'⟩
  betweenRows := some ⟨'|', '-', '+', '|'⟩
  bottom := ⟨'+', '-', '+', '+'⟩
  left := '|'
  betweenCells := '|'
  right := '|'

/-- Boxes of box-drawing characters, without lines between rows. -/
def condensed : BoxStyle where
  top := ⟨'┌', '─', '┬', '┐'⟩
  belowHeader := ⟨'╞', '═', '╪', '╡'⟩
  betweenRows := none
  bottom := ⟨'└', '─', '┴', '┘'⟩
  left := '│'
  betweenCells := '┆'
  right := '│'

end BoxStyle

/-- A table by the texts of its cells. -/
structure Table where
  header : List String
  rows : List (List String)
  deriving DecidableEq, Repr

namespace Table

/-- The lines of a cell. -/
def cellLines (cell : String) : List String := (cell.toList.splitOn '\n').map String.ofList

/-- The width that a cell needs. -/
def cellWidth (cell : String) : Nat := ((cellLines cell).map width).foldl max 0

/-- The widths of the columns. -/
def columnWidths (table : Table) : List Nat :=
  table.rows.foldl (fun widths row => List.zipWith max widths (row.map cellWidth))
    (table.header.map cellWidth)

/-- A line that is filled up with blanks, between a blank on either side. -/
def padded (columns : Nat) (line : String) : String :=
  " " ++ line ++ "".pushn ' ' (columns - width line) ++ " "

/-- A horizontal line over columns of the given widths. -/
def ruleText (widths : List Nat) (rule : Rule) : String :=
  let parts := widths.map fun columns => "".pushn rule.fill (columns + 2)
  rule.left.toString ++ rule.crossing.toString.intercalate parts ++ rule.right.toString

/-- The lines of a row. -/
def rowLines (style : BoxStyle) (widths : List Nat) (row : List String) : List String :=
  let cells := row.map cellLines
  let height := (cells.map List.length).foldl max 0
  (List.range height).map fun i =>
    let parts := List.zipWith (fun columns lines => padded columns (lines[i]?.getD "")) widths cells
    style.left.toString ++ style.betweenCells.toString.intercalate parts ++ style.right.toString

/-- The drawn table, without a line break at its end. -/
def text (style : BoxStyle) (table : Table) : String :=
  let widths := table.columnWidths
  let between := (style.betweenRows.map (ruleText widths)).toList
  let rows := List.intercalate between (table.rows.map (rowLines style widths))
  "\n".intercalate
    (ruleText widths style.top :: rowLines style widths table.header ++
      ruleText widths style.belowHeader :: rows ++ [ruleText widths style.bottom])

end Table

end BracketQuery.Text
