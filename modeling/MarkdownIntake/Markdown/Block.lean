import MarkdownIntake.Markdown.Container
import MarkdownIntake.Markdown.Definition
import MarkdownIntake.Markdown.Inline

/-!
This module contains the reading of blocks: a document is read line by line into marks, and quotes and
list items are read in turn as containers of their own.

Each reader of one kind of block yields nothing if no such block starts at the present line. Their
order decides where several could.
-/

namespace MarkdownIntake.Markdown

open MarkdownIntake.Document

structure Progress where
  marks : Array Mark := #[]
  references : References := []
  next : Nat := 0

namespace Progress

def add (s : Progress) (marks : List Mark) : Progress :=
  { s with marks := s.marks ++ marks }

def goTo (s : Progress) (line : Nat) : Progress :=
  { s with next := line }

end Progress

def opening (kind tag : String) (markup : String := "") : Mark :=
  { kind := kind ++ "_open", tag, nesting := 1, markup }

def closing (kind tag : String) (markup : String := "") : Mark :=
  { kind := kind ++ "_close", tag, nesting := -1, markup }

def textLine (text : List Char) : Mark :=
  { kind := "inline", content := String.ofList text }

def wrapped (kind tag markup : String) (marks : List Mark) : List Mark :=
  opening kind tag markup :: (marks ++ [closing kind tag markup])

abbrev BlockReader := Container → (stop : Nat) → Progress → Option Progress

abbrev Reader := Container → (stop : Nat) → Progress → Progress

def codeEnd (c : Container) (stop index last : Nat) : Nat :=
  if index < stop then
    let line := c.line index
    if line.isEmpty then codeEnd c stop (index + 1) last
    else if c.isCode line then codeEnd c stop (index + 1) (index + 1)
    else last
  else
    last
termination_by stop - index

def readCode? : BlockReader := fun c stop s =>
  if c.isCode (c.line s.next) then
    let last := codeEnd c stop (s.next + 1) (s.next + 1)
    let lines := (List.range' s.next (last - s.next)).map fun index =>
      (c.line index).fromColumn (Container.codeIndent + c.indent) ++ ['\n']
    let content := String.ofList lines.flatten
    some ((s.add [{ kind := "code_block", tag := "code", content }]).goTo last)
  else
    none

/-- The end of the content of a fenced code block, and whether a closing fence stands there. -/
def fenceEnd (c : Container) (opening : FenceOpening) (stop index : Nat) : Nat × Bool :=
  if index < stop then
    let line := c.line index
    if !line.isEmpty && c.isOutside line then (index, false)
    else if line.isEmpty && !line.terminated then (index, false)
    else if !c.isCode line && opening.closedBy line.content then (index, true)
    else fenceEnd c opening stop (index + 1)
  else
    (max index stop, false)
termination_by stop - index

def readFence? : BlockReader := fun c stop s =>
  let line := c.line s.next
  match c.fenceStart? line with
  | none => none
  | some fence =>
    let (last, closed) := fenceEnd c fence stop (s.next + 1)
    let mark : Mark :=
      { kind := "fence"
        tag := "code"
        content := String.ofList (c.textOf (s.next + 1) last line.indent.toNat)
        markup := String.ofList (List.replicate fence.length fence.marker)
        info := String.ofList fence.info }
    some ((s.add [mark]).goTo (if closed then last + 1 else last))

def Line.unquoted (line : Line) : Line :=
  let rest := line.content.drop 1
  let column := line.indent.toNat + 1
  let (text, start, tabRest, hasGap) := match rest with
    | ' ' :: text => (text, column + 1, 0, true)
    | '\t' :: text =>
      -- A tab of one column is the space after the marker; a wider one goes on to indent the content.
      if (line.origin + column) % 4 = 3 then (text, column + 1, 0, true) else (rest, column, 1, true)
    | _ => (rest, column, 0, false)
  let gap := text.takeWhile isIndent
  { text
    shift := gap.length
    indent := columnAfterAll (line.origin + tabRest) start gap - start
    origin := if hasGap then column + 1 else column
    terminated := line.terminated }

structure QuoteLines where
  lines : Array Line
  stop : Nat
  interrupted : Bool

/-- `afterEmpty` tells whether the line before was empty, the marker aside. -/
def quoteLines (c : Container) (stop index : Nat) (afterEmpty : Bool) (lines : Array Line) :
    QuoteLines :=
  if index < stop then
    let line := c.line index
    if line.isEmpty then
      { lines, stop := index, interrupted := false }
    else if line.content.head? == some '>' && !c.isOutside line then
      let inner := line.unquoted
      quoteLines c stop (index + 1) inner.isEmpty (lines.setIfInBounds index inner)
    else if afterEmpty then
      { lines, stop := index, interrupted := false }
    else if c.interrupts .quote index stop then
      { lines, stop := index, interrupted := true }
    else
      -- A line without a marker goes on with the paragraph before it.
      quoteLines c stop (index + 1) afterEmpty (lines.setIfInBounds index { line with indent := -1 })
  else
    { lines, stop := max index stop, interrupted := false }
termination_by stop - index

def readQuote? (inner : Reader) : BlockReader := fun c stop s =>
  let line := c.line s.next
  if c.startsQuote line then
    let first := line.unquoted
    let quote :=
      quoteLines c stop (s.next + 1) first.isEmpty (c.lines.setIfInBounds s.next first)
    let limit := if quote.interrupted then quote.stop else c.limit
    let s := s.add [opening "blockquote" "blockquote" ">"]
    let s := inner { c with lines := quote.lines, indent := 0, limit } quote.stop s
    some (s.add [closing "blockquote" "blockquote" ">"])
  else
    none

def readBreak? : BlockReader := fun c _ s =>
  let line := c.line s.next
  if c.isBreak line then
    let markup := String.ofList (line.content.filter (!isIndent ·))
    some ((s.add [{ kind := "hr", tag := "hr", markup }]).goTo (s.next + 1))
  else
    none

def maxMarkerGap : Nat := 4

def readItem (inner : Reader) (c : Container) (stop : Nat) (marker : ListMarker) (s : Progress) :
    Progress :=
  let line := c.line s.next
  let start := line.indent.toNat + marker.length
  let after := line.content.drop marker.length
  let gap := after.takeWhile isIndent
  let column := columnAfterAll line.origin start gap
  let isBlank := after.length = gap.length
  let width := if isBlank || maxMarkerGap < column - start then 1 else column - start
  let markup := marker.char.toString
  let s := s.add [opening "list_item" "li" markup]
  let s :=
    if isBlank && (c.line (s.next + 1)).isEmpty then
      s.goTo (min (s.next + 2) stop)
    else
      let first := { line with shift := line.shift + marker.length + gap.length, indent := column }
      let item : Container :=
        { c with
          lines := c.lines.setIfInBounds s.next first
          indent := start + width
          listIndent? := some c.indent }
      inner item stop s
  s.add [closing "list_item" "li" markup]

def readItems (inner : Reader) (c : Container) (stop : Nat) (marker : ListMarker) (s : Progress) :
    Progress :=
  let after := readItem inner c stop marker s
  if _h : s.next < after.next ∧ after.next < stop then
    let line := c.line after.next
    if c.isOutside line || c.isCode line || c.interrupts .list after.next stop then
      after
    else
      match listMarker? line.content with
      | none => after
      | some following =>
        if following.continues marker then readItems inner c stop following after else after
  else
    after
termination_by stop - s.next
decreasing_by
  change stop - after.next < stop - s.next
  omega

def readList? (inner : Reader) : BlockReader := fun c stop s =>
  match c.listStart? (c.line s.next) with
  | none => none
  | some marker =>
    let (kind, tag) :=
      if marker.number?.isSome then ("ordered_list", "ol") else ("bullet_list", "ul")
    let markup := marker.char.toString
    let s := readItems inner c stop marker (s.add [opening kind tag markup])
    some (s.add [closing kind tag markup])

def readDefinition? : BlockReader := fun c _ s =>
  let line := c.line s.next
  if !c.isCode line && line.content.head? == some '[' then
    let last := c.continuationEnd .definition c.limit (s.next + 1)
    match definition? (c.contentOf s.next last) with
    | none => none
    | some found =>
      let references := s.references.define found.key found.address
      some { s with references, next := s.next + found.lineCount }
  else
    none

def htmlEnd (c : Container) (block : HtmlTag.Block) (stop index : Nat) : Nat :=
  if index < stop then
    let line := c.line index
    if !line.isEmpty && c.isOutside line then index
    else if block.endsAt line.content then (if line.isEmpty then index else index + 1)
    else htmlEnd c block stop (index + 1)
  else
    max index stop
termination_by stop - index

def readHtml? : BlockReader := fun c stop s =>
  let line := c.line s.next
  match c.htmlStart? line with
  | none => none
  | some block =>
    let last :=
      if block.endsAt line.content then s.next + 1 else htmlEnd c block stop (s.next + 1)
    let content := String.ofList (c.textOf s.next last c.indent)
    some ((s.add [{ kind := "html_block", content }]).goTo last)

def headingMarks (level : Nat) (text : List Char) : List Mark :=
  wrapped "heading" s!"h{level}" "" [textLine text]

def readHeading? : BlockReader := fun c _ s =>
  match c.heading? (c.line s.next) with
  | none => none
  | some heading => some ((s.add (headingMarks heading.level heading.text)).goTo (s.next + 1))

def underline? (c : Container) (stop index : Nat) : Option (Nat × Nat) :=
  if index < stop then
    let line := c.line index
    if line.isEmpty then none
    else if c.isCode line then underline? c stop (index + 1)
    else
      let level? := if c.isOutside line then none else underlineLevel? line.content
      match level? with
      | some level => some (index, level)
      | none =>
        if c.goesOn .paragraph index stop then underline? c stop (index + 1) else none
  else
    none
termination_by stop - index

def readUnderlined? : BlockReader := fun c stop s =>
  if c.isCode (c.line s.next) then
    none
  else
    match underline? c stop (s.next + 1) with
    | none => none
    | some (index, level) =>
      some ((s.add (headingMarks level (c.paragraphText s.next index))).goTo (index + 1))

def rowMarks (kind tag : String) (cells : List (List Char)) : List Mark :=
  wrapped "tr" "tr" "" (cells.flatMap fun cell => wrapped kind tag "" [textLine cell])

/--
The rows of the body of a table from `index` on, each with exactly `count` cells, and the line after
them. `missing` cells were missing so far.
-/
def bodyRows (c : Container) (stop count : Nat) (index : Nat) (missing : Int) :
    List (List (List Char)) × Nat :=
  if index < stop then
    let line := c.line index
    if c.isOutside line || c.interrupts .quote index stop || (trimMargins line.content).isEmpty
        || c.isCode line then
      ([], index)
    else
      let cells := rowCells line.content
      let missing := missing + count - cells.length
      if missing > maxMissingCells then
        ([], index)
      else
        let (rows, last) := bodyRows c stop count (index + 1) missing
        ((cells ++ List.replicate count []).take count :: rows, last)
  else
    ([], index)
termination_by stop - index

def readTable? : BlockReader := fun c stop s =>
  match c.tableStart? s.next stop with
  | none => none
  | some head =>
    let (rows, last) := bodyRows c stop head.length (s.next + 2) 0
    let body := rows.flatMap (rowMarks "td" "td")
    let body := if rows.isEmpty then [] else wrapped "tbody" "tbody" "" body
    let marks := wrapped "thead" "thead" "" (rowMarks "th" "th" head) ++ body
    some ((s.add (wrapped "table" "table" "" marks)).goTo last)

def readParagraph (c : Container) (s : Progress) : Progress :=
  let last := c.continuationEnd .paragraph c.limit (s.next + 1)
  (s.add (wrapped "paragraph" "p" "" [textLine (c.paragraphText s.next last)])).goTo last

def readBlock (quote item : Reader) (c : Container) (stop : Nat) (s : Progress) : Progress :=
  let readers : List BlockReader :=
    [readTable?, readCode?, readFence?, readQuote? quote, readBreak?, readList? item,
      readDefinition?, readHtml?, readHeading?, readUnderlined?]
  (readers.findSome? fun reader => reader c stop s).getD (readParagraph c s)

/-- The readers of containers inside another one; none at the level beyond which nothing is read. -/
abbrev Nested := Option (Reader × Reader)

def readBlocks (nested : Nested) (c : Container) (stop : Nat) (s : Progress) : Progress :=
  if s.next < stop then
    let next := c.skipEmpty s.next
    if stop ≤ next || c.isOutside (c.line next) then
      s.goTo next
    else
      match nested with
      | none => s.goTo stop
      | some (quote, item) =>
        let after := readBlock quote item c stop (s.goTo next)
        readBlocks nested c stop (after.goTo (c.pastEmpty stop (max after.next (s.next + 1))))
  else
    s
termination_by stop - s.next
decreasing_by
  have := Container.le_pastEmpty c stop (max after.next (s.next + 1))
  change stop - c.pastEmpty stop (max after.next (s.next + 1)) < stop - s.next
  omega

/-- Read blocks with `room` levels of nesting left. An item is two levels inside its container. -/
def reader : (room : Nat) → Reader
  | 0 => readBlocks none
  | 1 => readBlocks (some (reader 0, reader 0))
  | room + 2 => readBlocks (some (reader (room + 1), reader room))

def documentMarks (text : String) : List Mark :=
  let lines := (documentLines (uniformText text.toList)).toArray
  let s := reader maxNesting { lines, limit := lines.size } lines.size {}
  s.marks.toList.map fun mark =>
    if mark.kind == "inline" then
      { mark with children := lineMarks s.references mark.content.toList }
    else
      mark

end MarkdownIntake.Markdown
