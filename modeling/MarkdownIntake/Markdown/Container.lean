import MarkdownIntake.Markdown.BlockStart
import MarkdownIntake.Markdown.Line
import MarkdownIntake.Markdown.Table

/-!
This module contains containers: the document, a quote or a list item as the place where blocks are
read. A container decides which of its lines start a block and which go on with the one before.
-/

namespace MarkdownIntake.Markdown

structure Container where
  lines : Array Line
  indent : Nat := 0
  /-- The column at which the container that holds the list around this one starts. -/
  listIndent? : Option Nat := none
  limit : Nat

inductive Interrupted where
  | paragraph
  | definition
  | quote
  | list
deriving DecidableEq

namespace Container

def codeIndent : Nat := 4

def line (c : Container) (index : Nat) : Line :=
  c.lines.getD index .absent

def isCode (c : Container) (line : Line) : Bool :=
  codeIndent ≤ line.indent - c.indent

def isOutside (c : Container) (line : Line) : Bool :=
  line.indent < c.indent

def skipEmpty (c : Container) (index : Nat) : Nat :=
  if index < c.limit then
    if (c.line index).isEmpty then c.skipEmpty (index + 1) else index
  else
    index
termination_by c.limit - index

def pastEmpty (c : Container) (stop index : Nat) : Nat :=
  if index < stop && (c.line index).isEmpty then index + 1 else index

theorem le_pastEmpty (c : Container) (stop index : Nat) : index ≤ c.pastEmpty stop index := by
  unfold pastEmpty
  split <;> omega

def listStart? (c : Container) (line : Line) : Option ListMarker :=
  -- Outside the container, a line may still be indented further than the items of the list around it.
  let goesOn := c.isOutside line
    && c.listIndent?.any fun start => (codeIndent : Int) ≤ line.indent - start
  if c.isCode line || goesOn then none else listMarker? line.content

/--
Whether a line starts a list that may interrupt a paragraph: the first item has content, and its
number, if it has one, is 1.
-/
def listInterruptsParagraph (c : Container) (line : Line) : Bool :=
  match c.listStart? line with
  | none => false
  | some marker =>
    c.isOutside line
      || (marker.number?.all (· = 1) && !((line.content.drop marker.length).all isIndent))

def startsQuote (c : Container) (line : Line) : Bool :=
  !c.isCode line && line.content.head? == some '>'

def fenceStart? (c : Container) (line : Line) : Option FenceOpening :=
  if c.isCode line then none else fenceOpening? line.content

def isBreak (c : Container) (line : Line) : Bool :=
  !c.isCode line && isThematicBreak line.content

def htmlStart? (c : Container) (line : Line) : Option HtmlTag.Block :=
  if c.isCode line then none else HtmlTag.blockAt? line.content

def heading? (c : Container) (line : Line) : Option HeadingLine :=
  if c.isCode line then none else headingLine? line.content

def tableStart? (c : Container) (index stop : Nat) : Option (List (List Char)) :=
  let head := c.line index
  let below := c.line (index + 1)
  if index + 2 ≤ stop && !c.isOutside below && !c.isCode below && !c.isCode head then
    tableHead? head.content below.content
  else
    none

def interrupts (c : Container) (what : Interrupted) (index stop : Nat) : Bool :=
  let line := c.line index
  let leaf := (c.htmlStart? line).any (·.interrupts) || (c.heading? line).isSome
  let table := (c.tableStart? index stop).isSome
  let list := (c.listStart? line).isSome
  (c.fenceStart? line).isSome || c.startsQuote line || c.isBreak line || match what with
    | .paragraph => table || c.listInterruptsParagraph line || leaf
    | .definition => table || list || leaf
    | .quote => list || leaf
    | .list => false

def goesOn (c : Container) (what : Interrupted) (index stop : Nat) : Bool :=
  let line := c.line index
  !line.isEmpty && (c.isCode line || line.indent < 0 || !c.interrupts what index stop)

def continuationEnd (c : Container) (what : Interrupted) (stop index : Nat) : Nat :=
  if index < stop then
    if c.goesOn what index stop then c.continuationEnd what stop (index + 1) else index
  else
    index
termination_by stop - index

def textOf (c : Container) (start stop indent : Nat) : List Char :=
  ((List.range' start (stop - start)).map fun index =>
    let line := c.line index
    line.fromColumn indent ++ line.ending).flatten

def paragraphText (c : Container) (start stop : Nat) : List Char :=
  trimMargins (c.textOf start stop c.indent)

def contentOf (c : Container) (start stop : Nat) : List Char :=
  ((List.range' start (stop - start)).map fun index =>
    let line := c.line index
    line.content ++ line.ending).flatten

end Container

end MarkdownIntake.Markdown
