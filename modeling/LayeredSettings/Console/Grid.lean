/-
LayeredSettings/Console/Grid.lean

A table between lines: a header, rows, and columns that are as wide as their
widest line with one blank at each side.  A cell that holds several lines makes
its row as high as it is, and the other cells of the row are blank below their
own lines.
-/
import LayeredSettings.Text.Cells

namespace LayeredSettings

namespace Console

/-- A header and rows of cells. -/
structure Grid where
  header : List String
  rows : List (List String)
  deriving DecidableEq, Inhabited

namespace Grid

/-! ### Cells -/

/-- The lines of a cell. -/
def linesOf (cell : String) : List (List Char) := Text.pieces ['\n'] cell.toList

/-- The width of a cell: that of its widest line. -/
def cellWidth (cell : String) : Nat := ((linesOf cell).map Text.cells).foldl max 0

/-- The widths of two rows of columns side by side, the greater of each two. -/
def widest : List Nat → List Nat → List Nat
  | a :: as, b :: bs => max a b :: widest as bs
  | [], bs => bs
  | as, [] => as

/-- The widths of the columns. -/
def widths (g : Grid) : List Nat :=
  ((g.header :: g.rows).map fun row => row.map cellWidth).foldl widest []

/-! ### Lines -/

/-- A text between blanks, filled up to the width of its column. -/
def boxed (width : Nat) (line : List Char) : String :=
  " " ++ String.ofList (Text.padTo width (Text.expandTabs line)) ++ " "

/-- A line across the table. -/
def rule (left fill cross right : String) (widths : List Nat) : String :=
  left ++ cross.intercalate (widths.map fun w => String.join (List.replicate (w + 2) fill)) ++ right

/-- The lines of a row, with a bar between two columns. -/
def rowLines (bar : String) (widths : List Nat) (row : List String) : List String :=
  let columns := row.map linesOf
  let height := (columns.map List.length).foldl max 1
  (List.range height).map fun i =>
    let texts := (widths.zip columns).map fun (width, lines) => boxed width ((lines[i]?).getD [])
    bar ++ bar.intercalate texts ++ bar

/-- The lines of a table. -/
def lines (g : Grid) : List String :=
  let ws := g.widths
  [rule "┏" "━" "┳" "┓" ws] ++ rowLines "┃" ws g.header ++ [rule "┡" "━" "╇" "┩" ws] ++
    g.rows.flatMap (rowLines "│" ws) ++ [rule "└" "─" "┴" "┘" ws]

end Grid

end Console

end LayeredSettings
