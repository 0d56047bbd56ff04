import MarkdownIntake.Console.Display
import MarkdownIntake.Text.Blank

/-!
This module contains the fitting of a text into the cell of a table: lines are broken between words,
and a word that is too long is either broken or cut.
-/

namespace MarkdownIntake.Console

open MarkdownIntake.Text

inductive Overflow where
  | fold
  | ellipsis
deriving Repr, DecidableEq

/-- The words of a line, each with the blanks after it; the first one with those before it, too. -/
def spacedWords (cs : List Char) : List (List Char) :=
  match cs with
  | [] => []
  | c :: rest =>
    let lead := cs.takeWhile isBlank
    let afterLead := cs.dropWhile isBlank
    if afterLead.isEmpty then
      []
    else
      let word := afterLead.takeWhile (!isBlank ·)
      let tail := (afterLead.dropWhile (!isBlank ·)).takeWhile isBlank
      let size := lead.length + word.length + tail.length
      (lead ++ word ++ tail) :: spacedWords (rest.drop (size - 1))
termination_by cs.length

/-- The pieces of a text that are at most `width` cells wide, the present one being reversed. -/
def chop (width used : Nat) (piece : List Char) : List Char → List (List Char)
  | [] => [piece.reverse]
  | c :: rest =>
    if used + charWidth c > width then
      piece.reverse :: chop width (charWidth c) [c] rest
    else
      chop width (used + charWidth c) (c :: piece) rest

structure Filling where
  done : List (List Char) := []
  line : List Char := []
  used : Nat := 0

def Filling.break (s : Filling) : Filling :=
  if s.done.isEmpty && s.line.isEmpty then s else { s with done := s.done ++ [s.line], line := [] }

def Filling.add (width : Nat) (overflow : Overflow) (s : Filling) (word : List Char) : Filling :=
  let size := cells (trimRight word)
  if s.used + size ≤ width then
    { s with line := s.line ++ word, used := s.used + cells word }
  else if width < size && overflow = .fold then
    (chop width 0 [] word).foldl
      (fun s piece => { s.break with line := piece, used := cells piece }) s
  else
    { s.break with line := word, used := cells word }

def breakLine (width : Nat) (overflow : Overflow) (line : List Char) : List (List Char) :=
  match spacedWords line with
  | [] => [line]
  | words =>
    let s := words.foldl (Filling.add width overflow) {}
    s.done ++ [s.line]

def dropOverhang (width : Nat) (line : List Char) : List Char :=
  let blanks := line.length - (trimRight line).length
  line.take (line.length - min blanks (line.length - width))

def cutTo (width : Nat) : List Char → List Char
  | [] => List.replicate width ' '
  | c :: rest =>
    if charWidth c ≤ width then c :: cutTo (width - charWidth c) rest
    else List.replicate width ' '

def truncate (width : Nat) (overflow : Overflow) (line : List Char) : List Char :=
  if cells line ≤ width then line
  else match overflow with
    | .fold => cutTo width line
    | .ellipsis => cutTo (width - 1) line ++ ['…']

def wrap (width : Nat) (overflow : Overflow) (cs : List Char) : List (List Char) :=
  (lines cs).flatMap fun line =>
    (breakLine width overflow (expandTabs line)).map fun line =>
      truncate width overflow (dropOverhang width line)

end MarkdownIntake.Console
