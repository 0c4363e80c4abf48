import Casebook.Text.Width

namespace Casebook.Report

structure Table where
  header : List String
  rows : List (List String)
  deriving DecidableEq, Repr

namespace Table

abbrev Line := List Char

-- The lines of a cell; there is always one.
def cellLines (cell : String) : List Line := cell.toList.splitOn '\n'

def cellWidth (cell : String) : Nat := ((cellLines cell).map Text.width).foldl max 1

def cellHeight (cell : String) : Nat := (cellLines cell).length

def widest : List Nat → List Nat → List Nat
  | [], widths => widths
  | widths, [] => widths
  | width :: rest, other :: others => max width other :: widest rest others

def widths (table : Table) : List Nat :=
  (table.header :: table.rows).foldl (fun widths row => widest widths (row.map cellWidth)) []

def pad (width : Nat) (line : Line) : Line :=
  ' ' :: line ++ List.replicate (width - Text.width line) ' ' ++ [' ']

def across (edge separator : Char) (parts : List Line) : Line :=
  edge :: [separator].intercalate parts ++ [edge]

def rule (edge separator fill : Char) (widths : List Nat) : Line :=
  across edge separator (widths.map fun width => List.replicate (width + 2) fill)

-- Cells that are shorter than their row are blank below their last line.
def rowLines (widths : List Nat) (row : List String) : List Line :=
  let height := (row.map cellHeight).foldl max 0
  (List.range height).map fun number =>
    across '|' '|' ((widths.zip row).map fun column => pad column.1 ((cellLines column.2)[number]?.getD []))

def lines (table : Table) : List Line :=
  let widths := table.widths
  [rule '+' '+' '-' widths] ++ rowLines widths table.header ++ [rule '+' '=' '=' widths] ++
    [rule '|' '+' '-' widths].intercalate (table.rows.map (rowLines widths)) ++ [rule '+' '+' '-' widths]

def draw (table : Table) : String := String.ofList (['\n'].intercalate table.lines)

end Table
end Casebook.Report
