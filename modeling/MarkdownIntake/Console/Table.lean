import MarkdownIntake.Console.Wrap

/-!
This module contains tables drawn with box characters: a title, a head and rows. A column is as wide as
its widest line, and a row as high as its highest cell.
-/

namespace MarkdownIntake.Console

open MarkdownIntake.Text

structure Column where
  name : String
  alignRight : Bool := false
  overflow : Overflow := .ellipsis

structure Table where
  title : String
  columns : List Column
  rows : List (List String)

def endsMeasuredLine (c : Char) : Bool :=
  let n := c.toNat
  n == 10 || (28 ≤ n && n ≤ 30) || n == 0x85 || n == 0x2028 || n == 0x2029

def widestLine (cs : List Char) : Nat :=
  ((lines (cs.map fun c => if endsMeasuredLine c then '\n' else c)).map cells).foldl max 0

def spaces (count : Nat) : List Char :=
  List.replicate count ' '

def Column.place (column : Column) (width : Nat) (line : List Char) : List Char :=
  if column.alignRight then
    let line := trimRight line
    spaces (width - cells line) ++ line
  else
    line ++ spaces (width - cells line)

def centred (width : Nat) (line : List Char) : List Char :=
  let gap := width - cells line
  spaces (gap / 2) ++ line ++ spaces (gap - gap / 2)

def rule (left between right stroke : Char) (widths : List Nat) : List Char :=
  left :: (joinWith [between] (widths.map fun width => List.replicate (width + 2) stroke) ++ [right])

namespace Table

def shownCells (texts : List String) : List (List Char) :=
  texts.map fun text => audible text.toList

def widths (table : Table) : List Nat :=
  let rows := table.columns.map (·.name) :: table.rows
  (List.range table.columns.length).map fun index =>
    (rows.map fun row => widestLine ((shownCells row).getD index [])).foldl max 0

def rowLines (table : Table) (separator : Char) (row : List String) : List (List Char) :=
  let wrapped := ((table.columns.zip table.widths).zip (shownCells row)).map
    fun ((column, width), cell) => (column, width, wrap width column.overflow cell)
  let height := (wrapped.map fun (_, _, cell) => cell.length).foldl max 1
  (List.range height).map fun index =>
    let cells := wrapped.map fun (column, width, cell) =>
      ' ' :: (column.place width (cell.getD index []) ++ [' '])
    separator :: (joinWith [separator] cells ++ [separator])

def drawnLines (table : Table) : List (List Char) :=
  let widths := table.widths
  let total := (widths.map (· + 3)).foldl (· + ·) 1
  let title := centred total table.title.toList
  [title, rule '┏' '┳' '┓' '━' widths] ++ table.rowLines '┃' (table.columns.map (·.name))
    ++ [rule '┡' '╇' '┩' '━' widths] ++ table.rows.flatMap (table.rowLines '│')
    ++ [rule '└' '┴' '┘' '─' widths]

def draw (table : Table) : String :=
  String.ofList (table.drawnLines.flatMap (· ++ ['\n']))

end Table

end MarkdownIntake.Console
