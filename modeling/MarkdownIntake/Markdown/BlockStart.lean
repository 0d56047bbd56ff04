import MarkdownIntake.Markdown.HtmlTag

/-!
This module contains the recognition of what the content of a line may start: a fence, a heading, a
thematic break, a list item. Each of them is told by the one line alone.
-/

namespace MarkdownIntake.Markdown

open MarkdownIntake.Text

def runLength (c : Char) (cs : List Char) : Nat :=
  (cs.takeWhile (· = c)).length

structure FenceOpening where
  marker : Char
  length : Nat
  info : List Char

def fenceOpening? (content : List Char) : Option FenceOpening :=
  match content with
  | [] => none
  | marker :: _ =>
    let length := runLength marker content
    let info := content.drop length
    if (marker = '`' || marker = '~') && 3 ≤ length && !(marker = '`' && info.contains '`') then
      some { marker, length, info }
    else
      none

def FenceOpening.closedBy (opening : FenceOpening) (content : List Char) : Bool :=
  let length := runLength opening.marker content
  opening.length ≤ length && (content.drop length).all isIndent

def isThematicBreak (content : List Char) : Bool :=
  match content with
  | [] => false
  | marker :: _ =>
    (marker = '*' || marker = '-' || marker = '_')
      && content.all (fun c => c = marker || isIndent c) && 3 ≤ content.count marker

structure HeadingLine where
  level : Nat
  text : List Char

def headingLine? (content : List Char) : Option HeadingLine :=
  let level := runLength '#' content
  let rest := content.drop level
  if 1 ≤ level && level ≤ 6 && rest.head?.all isIndent then
    let body := dropRightWhile isIndent rest
    let unmarked := dropRightWhile (· = '#') body
    let text := if unmarked.getLast?.any isIndent then unmarked else body
    some { level, text := trimMargins text }
  else
    none

def underlineLevel? (content : List Char) : Option Nat :=
  match content with
  | [] => none
  | marker :: _ =>
    if (marker = '=' || marker = '-') && (content.dropWhile (· = marker)).all isIndent then
      some (if marker = '=' then 1 else 2)
    else
      none

structure ListMarker where
  number? : Option Nat
  char : Char
  length : Nat

def maxNumberDigits : Nat := 9

def orderedMarker? (content : List Char) : Option ListMarker :=
  let digits := content.takeWhile Char.isDigit
  match content.drop digits.length with
  | [] => none
  | char :: rest =>
    if 1 ≤ digits.length && digits.length ≤ maxNumberDigits && (char = '.' || char = ')')
        && rest.head?.all isIndent then
      let number := digits.foldl (fun n c => n * 10 + (c.toNat - '0'.toNat)) 0
      some { number? := some number, char, length := digits.length + 1 }
    else
      none

def bulletMarker? (content : List Char) : Option ListMarker :=
  match content with
  | [] => none
  | char :: rest =>
    if (char = '*' || char = '-' || char = '+') && rest.head?.all isIndent then
      some { number? := none, char, length := 1 }
    else
      none

def listMarker? (content : List Char) : Option ListMarker :=
  (orderedMarker? content).or (bulletMarker? content)

def ListMarker.continues (marker first : ListMarker) : Bool :=
  marker.number?.isSome == first.number?.isSome && marker.char == first.char

end MarkdownIntake.Markdown
