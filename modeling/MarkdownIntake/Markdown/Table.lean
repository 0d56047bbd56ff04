import MarkdownIntake.Markdown.Character
import MarkdownIntake.Text.Lines

/-!
This module contains the rows of tables. Bars separate cells; a bar after a backslash belongs to its
cell, and the backslash does not.
-/

namespace MarkdownIntake.Markdown

/-- The pieces between bars; `cell` is the present piece, reversed. -/
def splitCells (escaped : Bool) (cell : List Char) : List Char → List (List Char)
  | [] => [cell.reverse]
  | c :: rest =>
    if c = '|' then
      if escaped then splitCells false (c :: cell.drop 1) rest
      else cell.reverse :: splitCells false [] rest
    else
      splitCells (c = '\\') (c :: cell) rest

def rowCells (content : List Char) : List (List Char) :=
  let cells := splitCells false [] (trimMargins content)
  let cells := if cells.head? == some [] then cells.drop 1 else cells
  let cells := if cells.getLast? == some [] then cells.dropLast else cells
  cells.map trimMargins

/-- Whether a line may stand between the head and the body of a table, as far as its start shows. -/
def isDelimiterRow (content : List Char) : Bool :=
  let isPart := fun c => c = '|' || c = '-' || c = ':'
  match content with
  | first :: second :: rest =>
    isPart first && (isPart second || isIndent second) && !(first = '-' && isIndent second)
      && rest.all fun c => isPart c || isIndent c
  | _ => false

def isColumnRule (piece : List Char) : Bool :=
  let piece := if piece.head? == some ':' then piece.drop 1 else piece
  let piece := if piece.getLast? == some ':' then piece.dropLast else piece
  !piece.isEmpty && piece.all (· = '-')

def columnCount? (content : List Char) : Option Nat :=
  let pieces := (Text.splitAt '|' content).map trimMargins
  let pieces := if pieces.head? == some [] then pieces.drop 1 else pieces
  let pieces := if pieces.getLast? == some [] then pieces.dropLast else pieces
  if isDelimiterRow content && pieces.all isColumnRule then some pieces.length else none

def tableHead? (content below : List Char) : Option (List (List Char)) :=
  match columnCount? below with
  | none => none
  | some count =>
    let cells := rowCells content
    if content.contains '|' && 1 ≤ count && cells.length = count then some cells else none

def maxMissingCells : Nat := 0x10000

end MarkdownIntake.Markdown
