import TestSelection.Text.Split
import TestSelection.Text.Width

/-!
# Tables

A header and rows of cells, drawn with plain characters. A column is as wide as its widest line and
has a blank on either side; a cell of several lines makes its row as high.
-/
namespace TestSelection

structure Table where
  header : List String
  rows : List (List String)

namespace Table

/-- The lines of a cell. -/
def cellLines (cell : String) : List String :=
  Text.split '\n' cell

/-- Columns of the widest line of a cell. -/
def cellWidth (cell : String) : Nat :=
  (cellLines cell).foldl (fun w line => max w (Text.displayWidth line)) 0

/-- The widths of the columns, as many as the longest row has. -/
def widths (t : Table) : List Nat :=
  (t.header :: t.rows).foldl (fun ws row => widen ws (row.map cellWidth)) []
where
  /-- The greater width of each column. -/
  widen : List Nat → List Nat → List Nat
    | [], row => row
    | ws, [] => ws
    | w :: ws, c :: row => max w c :: widen ws row

/-- A text filled with blanks to a width, and a blank on either side. -/
def padded (width : Nat) (line : String) : String :=
  " " ++ line ++ String.ofList (List.replicate (width - Text.displayWidth line) ' ') ++ " "

/-- One line of a row: that line of each cell, or nothing where a cell has no more lines. -/
def rowLine (widths : List Nat) (cells : List (List String)) (index : Nat) : String :=
  let cell (column width : Nat) : String :=
    padded width (((cells[column]?).bind (·[index]?)).getD "")
  "|" ++ "|".intercalate (widths.mapIdx cell) ++ "|"

/-- The lines of a row. -/
def rowLines (widths : List Nat) (row : List String) : List String :=
  let cells := row.map cellLines
  let height := cells.foldl (fun h lines => max h lines.length) 0
  (List.range height).map (rowLine widths cells)

/-- A line across all columns. -/
def rule (left fill cross right : String) (widths : List Nat) : String :=
  left ++ cross.intercalate (widths.map fun w => String.join (List.replicate (w + 2) fill)) ++ right

/-- The lines of a table. -/
def lines (t : Table) : List String :=
  let ws := t.widths
  let between := rule "|" "-" "+" "|" ws
  let rows := ((t.rows.map (rowLines ws)).intersperse [between]).flatten
  [rule "+" "-" "+" "+" ws] ++ rowLines ws t.header ++ [rule "+" "=" "=" "+" ws] ++ rows ++
    [rule "+" "-" "+" "+" ws]

end Table

end TestSelection
