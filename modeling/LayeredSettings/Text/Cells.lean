/-
LayeredSettings/Text/Cells.lean

The width of a text on a terminal, in cells, and the tab stops of a line.

A text is measured from left to right.  A joiner makes one picture of the
characters at its two sides, so the character behind it adds nothing; the
selector of emoji widens the character before it, once.
-/
import LayeredSettings.Text.CellTable
import LayeredSettings.Text.Pieces
import LayeredSettings.Text.Ranges

namespace LayeredSettings

namespace Text

/-! ### Width -/

/-- The cells of a character on its own. -/
def cellsOf (c : Char) : Nat :=
  if inRanges noCellRanges c then 0 else if inRanges twoCellRanges c then 2 else 1

/-- The cells that the selector of emoji adds to the character before it. -/
def selectorCells : Option Char → Nat
  | some c => if inRanges emojiByRequestRanges c then 1 else 0
  | none => 0

/-- The cells of a text behind a character that a selector could widen. -/
def cellsBehind : Option Char → List Char → Nat
  | _, [] => 0
  | _, ['\u200d'] => 0
  | last, '\u200d' :: _ :: rest => cellsBehind last rest
  | last, c :: rest =>
      if c = '\ufe0f' then selectorCells last + cellsBehind none rest
      else if cellsOf c = 0 then cellsBehind last rest
      else cellsOf c + cellsBehind (some c) rest

/-- The cells of a text. -/
def cells (s : List Char) : Nat := cellsBehind none s

/-- A text with blanks behind it up to a width. -/
def padTo (width : Nat) (s : List Char) : List Char := s ++ List.replicate (width - cells s) ' '

/-! ### Tab stops -/

/-- The distance between two tab stops. -/
def tabWidth : Nat := 8

/-- Pieces with blanks up to the next tab stop between them. -/
def atTabStops : Nat → List (List Char) → List Char
  | _, [] => []
  | _, [piece] => piece
  | start, piece :: next :: rest =>
      let behind := start + cells piece
      let stop := (behind / tabWidth + 1) * tabWidth
      piece ++ List.replicate (stop - behind) ' ' ++ atTabStops stop (next :: rest)

/-- A line with blanks in place of its tabs. -/
def expandTabs (line : List Char) : List Char := atTabStops 0 (pieces ['\t'] line)

end Text

end LayeredSettings
