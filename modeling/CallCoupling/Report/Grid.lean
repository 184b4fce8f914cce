import CallCoupling.Number.Integer
import CallCoupling.Text.Terminal.Wrap

/-!
# Labelled tables in Markdown

A table has a head with the labels and one row per label.  Every column is as wide as its widest cell and a
blank on each side, and the text of a cell is wrapped to its column.  The head shows the first line of its
cells only, but it leaves room for all of them at the end of the table.

Cells are bytes, because a label need not be text.
-/

set_option autoImplicit false

namespace CallCoupling.Grid

/-- The text of a cell. -/
abbrev Cell := List UInt8

/-- The columns of the blanks at both sides of a cell. -/
def margins : Nat := 2

/-- So many blanks. -/
def blanks (n : Nat) : Cell := List.replicate n 0x20

/-- The lines of a text. -/
def linesOf : Cell → List Cell
  | [] => [[]]
  | b :: rest =>
    if b = 0x0A then [] :: linesOf rest
    else
      match linesOf rest with
      | [] => [[b]]
      | l :: ls => (b :: l) :: ls

/-- A text with plain line ends: a carriage return in front of one is dropped. -/
def plainLineEnds : Cell → Cell
  | 0x0D :: 0x0A :: rest => 0x0A :: plainLineEnds rest
  | b :: rest => b :: plainLineEnds rest
  | [] => []

/-- A text with four blanks for each tab. -/
def expanded (s : Cell) : Cell := s.flatMap fun b => if b = 0x09 then blanks 4 else [b]

/-- The greatest of some numbers. -/
def greatest (ns : List Nat) : Nat := ns.foldl max 0

/-- The columns of the widest line. -/
def widest (ls : List Cell) : Nat := greatest (ls.map Terminal.width)

/-- Lines filled up with blanks to a number of columns. -/
def filled (columns : Nat) (ls : List Cell) : List Cell :=
  ls.map fun l => l ++ blanks (columns - Terminal.width l)

/-- The cell of a column in a row, empty past the end of the row. -/
def cellAt (row : List Cell) (j : Nat) : Cell := row[j]?.getD []

/-- The columns of each cell, with its margins. -/
def columnWidths (rows : List (List Cell)) : List Nat :=
  let n := greatest (rows.map List.length)
  (List.range n).map fun j => greatest (rows.map fun row => widest (linesOf (cellAt row j))) + margins

/-- The number of lines that a cell is given in a column. -/
def cellHeight (width : Nat) (s : Cell) : Nat :=
  if width = margins then 1
  else
    ((linesOf (plainLineEnds s)).map (Terminal.lineCount (width - margins))).foldr (· + ·) 0

/-- The number of lines that a row is given. -/
def height (widths : List Nat) (row : List Cell) : Nat :=
  max 1 (greatest ((widths.zip row).map fun (w, s) => cellHeight w s))

/-- The lines of a cell: wrapped, with margins, at least and at most so many of them. -/
def cellLines (width least most : Nat) (s : Cell) : List Cell :=
  let wrapped := Terminal.wrap (width - margins) (plainLineEnds (expanded s))
  let ls := (linesOf wrapped).map fun l => blanks 1 ++ l ++ blanks 1
  let ls := ls ++ List.replicate (least - ls.length) []
  ((filled (max width (widest ls)) ls).map (Terminal.cut width)).take most

/-- Blocks of the same height beside each other; each block is filled up to its widest line. -/
def beside (blocks : List (List Cell)) (lines : Nat) : List Cell :=
  let blocks := blocks.map fun ls => filled (widest ls) ls
  (List.range lines).map fun k => (blocks.map fun ls => cellAt ls k).flatten

/-- The bar between cells. -/
def bar : Cell := [0x7C]

/-- The lines of a row. -/
def rowLines (widths : List Nat) (row : List Cell) : List Cell :=
  let h := height widths row
  let bars := List.replicate h bar
  beside (bars :: (widths.zip row).flatMap fun (w, s) => [cellLines w h h s, bars]) h

/-- The line of the head. -/
def headLine (widths : List Nat) (head : List Cell) : Cell :=
  bar ++ (widths.zip head).flatMap fun (w, s) => cellAt (cellLines w 0 1 s) 0 ++ bar

/-- The line between the head and the rows. -/
def separator (widths : List Nat) : Cell :=
  bar ++ widths.flatMap fun w => List.replicate w 0x2D ++ bar

/-- The text of a table. -/
def text (head : List Cell) (body : List (List Cell)) : Cell :=
  let widths := columnWidths (head :: body)
  let columns := greatest (body.map List.length)
  let padded (n : Nat) (row : List Cell) : List Cell := row ++ List.replicate (n - row.length) []
  let head := padded widths.length head
  let body := body.map (padded columns)
  let inner := widths.take columns
  let ls := headLine widths head :: separator widths :: body.flatMap (rowLines inner)
  -- The rows end with a line end, and behind it is an empty line.
  let ls := ls ++ [[]]
  let kept := height widths head + (body.map (height inner)).foldr (· + ·) 0 + 1
  [0x0A].intercalate ((filled (widest ls) ls).take kept)

/-- The rows with their labels; `none` if there are more rows than labels. -/
def labelled : List Loose → List (List Int) → Option (List (List Cell))
  | _, [] => some []
  | [], _ :: _ => none
  | label :: labels, row :: rows =>
    (labelled labels rows).map
      ((label.toBytes :: row.map fun n => (Loose.ofString (Integer.text n)).toBytes) :: ·)

/-- The table of labelled rows; `none` if there are more rows than labels. -/
def render (labels : List Loose) (rows : List (List Int)) : Option Loose :=
  (labelled labels rows).map fun body => Loose.ofBytes (text ([] :: labels.map Loose.toBytes) body)

end CallCoupling.Grid
