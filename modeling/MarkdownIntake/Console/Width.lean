import MarkdownIntake.Console.WidthTable

/-!
This module contains the number of cells that a text takes on a console.
-/

namespace MarkdownIntake.Console

open MarkdownIntake.Text

def charWidth (c : Char) : Nat :=
  if 32 ≤ c.toNat && c.toNat < 127 then 1
  else if inRanges zeroWidthRanges c then 0
  else if inRanges wideRanges c then 2
  else 1

def joiner : Char := '\u200d'

def colourSelector : Char := '\ufe0f'

/--
The number of cells of a text. `last` is the last character that took a cell and may still be
widened.
-/
def cellsFrom (last : Option Char) : List Char → Nat
  | [] => 0
  | c :: rest =>
    if c = joiner then
      match rest with
      | [] => 0
      | _ :: rest => cellsFrom last rest
    else if c = colourSelector then
      (if last.any (inRanges widenedRanges) then 1 else 0) + cellsFrom none rest
    else
      let width := charWidth c
      width + cellsFrom (if width = 0 then last else some c) rest

def cells (cs : List Char) : Nat :=
  cellsFrom none cs

end MarkdownIntake.Console
