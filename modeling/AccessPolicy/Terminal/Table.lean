/-
Tables drawn with box characters. A column is as wide as its widest cell; a
cell of several lines makes its row as high.
-/
import AccessPolicy.Terminal.Width
import AccessPolicy.Text.Space

namespace AccessPolicy.Terminal

/-- The lines of a cell. -/
def cellLines (cell : String) : List String := Text.splitAt '\n' cell

/-- The columns that a cell takes. -/
def cellWidth (cell : String) : Nat := ((cellLines cell).map width).foldl max 0

/-- The widths of the columns of a table. -/
def columnWidths (columns : Nat) (rows : List (List String)) : List Nat :=
  (List.range columns).map fun i => (rows.map fun r => cellWidth (r.getD i "")).foldl max 0

/-- So many copies of a character. -/
def copies (n : Nat) (c : Char) : String := String.ofList (List.replicate n c)

/-- A rule across a table: how it starts, what it consists of, how it crosses
the lines between columns, and how it ends. -/
structure TableRule where
  left : Char
  line : Char
  cross : Char
  right : Char

/-- The rule above a table. -/
def topRule : TableRule := ⟨'╭', '─', '┬', '╮'⟩

/-- The rule below the headings. -/
def headingRule : TableRule := ⟨'╞', '═', '╪', '╡'⟩

/-- The rule between two rows. -/
def rowRule : TableRule := ⟨'├', '╌', '┼', '┤'⟩

/-- The rule below a table. -/
def bottomRule : TableRule := ⟨'╰', '─', '┴', '╯'⟩

/-- The text of a rule over columns of given widths. -/
def TableRule.draw (r : TableRule) (widths : List Nat) : String :=
  r.left.toString ++ r.cross.toString.intercalate (widths.map fun w => copies (w + 2) r.line)
    ++ r.right.toString

/-- A line of a cell, filled up to the width of its column. -/
def padded (w : Nat) (s : String) : String := " " ++ s ++ copies (w - width s) ' ' ++ " "

/-- The lines of a row. -/
def drawRow (widths : List Nat) (row : List String) : List String :=
  let cells := row.map cellLines
  let height := (cells.map List.length).foldl max 0
  (List.range height).map fun i =>
    "│" ++ "┆".intercalate ((widths.zip cells).map fun c => padded c.1 (c.2.getD i "")) ++ "│"

/-- The lines of rows with rules between them. -/
def drawRows (widths : List Nat) : List (List String) → List String
  | [] => []
  | [row] => drawRow widths row
  | row :: rows => drawRow widths row ++ rowRule.draw widths :: drawRows widths rows

/-- The lines of a table with a heading over each column. -/
def drawTable (headings : List String) (rows : List (List String)) : List String :=
  let widths := columnWidths headings.length (headings :: rows)
  topRule.draw widths :: drawRow widths headings ++ headingRule.draw widths
    :: drawRows widths rows ++ [bottomRule.draw widths]

end AccessPolicy.Terminal
