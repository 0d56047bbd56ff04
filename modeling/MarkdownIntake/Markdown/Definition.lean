import MarkdownIntake.Markdown.Destination
import MarkdownIntake.Markdown.LinkAddress
import MarkdownIntake.Markdown.Reference

/-!
This module contains the reading of link definitions: a label in square brackets, a colon, a
destination and perhaps a title, over as many lines as they need.
-/

namespace MarkdownIntake.Markdown

structure Definition where
  key : String
  address : String
  lineCount : Nat

def readLabel? : List Char → List Char → Option (List Char × List Char)
  | [], _ => none
  | '\\' :: c :: rest, out => readLabel? rest (c :: '\\' :: out)
  | c :: rest, out =>
    if c = '[' then none
    else if c = ']' then some (out.reverse, rest)
    else readLabel? rest (c :: out)

def endsLine (cs : List Char) : Bool :=
  (cs.dropWhile isIndent).head?.all (· = '\n')

def afterTitle? (rest : List Char) : Option (List Char) :=
  let withoutTitle := if endsLine rest then some rest else none
  let start := rest.dropWhile isLinkGap
  match readTitle? start with
  | none => withoutTitle
  | some (title, after) =>
    -- A title needs a gap before it; one that spans lines is taken as well.
    let written := start.take (start.length - after.length)
    if start.length < rest.length || written.contains '\n' then
      if endsLine after then some after
      else if title.isEmpty then none
      else withoutTitle
    else
      withoutTitle

def splitFirstLine (text : List Char) : List Char × List Char :=
  let length := (text.takeWhile (· ≠ '\n')).length + 1
  (text.take length, text.drop length)

def definition? (text : List Char) : Option Definition :=
  match text with
  | '[' :: rest => do
    let (label, rest) ← readLabel? rest []
    match rest with
    | ':' :: rest =>
      let (line, below) := splitFirstLine (rest.dropWhile isLinkGap)
      let (destination, lineRest) ← readDestination? line
      let address := LinkAddress.written destination
      if LinkAddress.isAllowed address then
        -- After a backslash the line feed belongs to the destination, and no title can follow.
        let rest ← if lineRest.isEmpty then some below else afterTitle? (lineRest ++ below)
        let key := referenceKey label
        let read := text.take (text.length - rest.length)
        if key.isEmpty then none
        else some { key, address := String.ofList address, lineCount := 1 + read.dropLast.count '\n' }
      else
        none
    | _ => none
  | _ => none

end MarkdownIntake.Markdown
