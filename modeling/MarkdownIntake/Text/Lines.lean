/-!
This module contains the division of a text into lines and the search for a snippet in it. A line
ends at a line feed and nowhere else.
-/

namespace MarkdownIntake.Text

def consFirst (c : Char) : List (List Char) → List (List Char)
  | [] => [[c]]
  | piece :: pieces => (c :: piece) :: pieces

def splitAt (separator : Char) (cs : List Char) : List (List Char) :=
  cs.foldr (fun c pieces => if c = separator then [] :: pieces else consFirst c pieces) [[]]

def lines (cs : List Char) : List (List Char) :=
  splitAt '\n' cs

def joinWith (separator : List Char) : List (List Char) → List Char
  | [] => []
  | piece :: pieces => piece ++ pieces.flatMap (separator ++ ·)

/--
The least index not below `index` at which `snippet` occurs, where `rest` is the part of the text
from `index` on. The empty snippet occurs everywhere, the end of the text included.
-/
def indexFrom? (snippet : List Char) (rest : List Char) (index : Nat) : Option Nat :=
  if snippet.isPrefixOf rest then
    some index
  else
    match rest with
    | [] => none
    | _ :: rest => indexFrom? snippet rest (index + 1)

def searchStart (length : Nat) (start : Int) : Nat :=
  if start < 0 then (length + start).toNat else start.toNat

def find? (text snippet : List Char) (start : Int) : Option Nat :=
  let first := searchStart text.length start
  if first ≤ text.length then indexFrom? snippet (text.drop first) first else none

def occursIn (snippet text : List Char) : Bool :=
  (find? text snippet 0).isSome

def unifyLineEnds : List Char → List Char
  | [] => []
  | '\r' :: '\n' :: rest => '\n' :: unifyLineEnds rest
  | '\r' :: rest => '\n' :: unifyLineEnds rest
  | c :: rest => c :: unifyLineEnds rest

end MarkdownIntake.Text
