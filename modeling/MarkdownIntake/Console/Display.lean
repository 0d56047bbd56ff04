import MarkdownIntake.Console.Markup
import MarkdownIntake.Console.Width
import MarkdownIntake.Text.Lines

/-!
This module contains what a console shows of a text: some controls are left out, and tabs reach to the
next of the columns 8, 16, 24 and so on.
-/

namespace MarkdownIntake.Console

open MarkdownIntake.Text

def isSilent (c : Char) : Bool :=
  let n := c.toNat
  n == 7 || n == 8 || n == 11 || n == 12 || n == 13

def audible (cs : List Char) : List Char :=
  cs.filter (!isSilent ·)

def tabWidth : Nat := 8

def fillTabs (column : Nat) : List (List Char) → List Char
  | [] => []
  | [part] => part
  | part :: parts =>
    let column := column + cells part
    let fill := tabWidth - column % tabWidth
    part ++ List.replicate fill ' ' ++ fillTabs (column + fill) parts

def expandTabs (line : List Char) : List Char :=
  fillTabs 0 (splitAt '\t' line)

def display (cs : List Char) : List Char :=
  joinWith ['\n'] ((lines (audible cs)).map expandTabs)

def print (text : String) : String :=
  String.ofList (display text.toList ++ ['\n'])

def printMarkup (markup : String) : String :=
  print (shown markup)

def printAll (texts : List String) : String :=
  String.join (texts.map print)

end MarkdownIntake.Console
