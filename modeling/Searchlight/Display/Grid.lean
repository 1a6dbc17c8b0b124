import Searchlight.Text.Search
import Searchlight.Text.Width

/-!
# Tables in boxes

A table has a header and rows of cells in a box of lines. Every column is as wide as its widest
cell, with a space on both sides; a cell of several lines makes its row as high.
-/

namespace Searchlight

namespace Display

/-- The characters that a horizontal line is made of. -/
structure Border where
  left : Char
  fill : Char
  cross : Char
  right : Char

def topBorder : Border := ⟨'┌', '─', '┬', '┐'⟩

def headerBorder : Border := ⟨'╞', '═', '╪', '╡'⟩

def bottomBorder : Border := ⟨'└', '─', '┴', '┘'⟩

def Border.line (b : Border) (widths : List Nat) : List Char :=
  [b.left] ++ [b.cross].intercalate (widths.map fun w => List.replicate (w + 2) b.fill) ++ [b.right]

/-- A cell as its lines. -/
abbrev Cell := List (List Char)

def cellOf (s : String) : Cell := Text.splitOn '\n' s.toList

def cellWidth (c : Cell) : Nat := (c.map Text.width).foldl max 0

/-- The widths of both rows, column by column. -/
def maxWidths : List Nat → List Nat → List Nat
  | [], widths | widths, [] => widths
  | a :: as, b :: bs => max a b :: maxWidths as bs

def columnWidths (rows : List (List Cell)) : List Nat :=
  (rows.map fun cells => cells.map cellWidth).foldl maxWidths []

def padded (width : Nat) (line : List Char) : List Char :=
  [' '] ++ line ++ List.replicate (width - Text.width line) ' ' ++ [' ']

/-- One line of text through a row. -/
def rowLine (widths : List Nat) (cells : List Cell) (number : Nat) : List Char :=
  let parts := (widths.zip cells).map fun (width, cell) => padded width (cell[number]?.getD [])
  ['│'] ++ ['┆'].intercalate parts ++ ['│']

def rowLines (widths : List Nat) (cells : List Cell) : List (List Char) :=
  let height := (cells.map List.length).foldl max 1
  (List.range height).map (rowLine widths cells)

/-- The lines of a table with a header. -/
def gridLines (header : List String) (rows : List (List String)) : List (List Char) :=
  let header := header.map cellOf
  let rows := rows.map fun cells => cells.map cellOf
  let widths := columnWidths (header :: rows)
  [topBorder.line widths] ++ rowLines widths header ++ [headerBorder.line widths] ++
    rows.flatMap (rowLines widths) ++ [bottomBorder.line widths]

def grid (header : List String) (rows : List (List String)) : String :=
  String.ofList (['\n'].intercalate (gridLines header rows))

end Display

end Searchlight
