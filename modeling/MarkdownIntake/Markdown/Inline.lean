import MarkdownIntake.Markdown.Destination
import MarkdownIntake.Markdown.Emphasis
import MarkdownIntake.Markdown.HtmlTag
import MarkdownIntake.Markdown.LinkAddress
import MarkdownIntake.Markdown.Reference

/-!
This module contains the reading of running text into marks: code spans, links, images, raw HTML,
line breaks, escapes and emphasis.

A link is found by looking for the end of its label, which means passing over whatever stands in the
label; how far to pass over at each position is remembered. Constructs are nested up to a fixed
level, beyond which the rest of the text is plain.
-/

namespace MarkdownIntake.Markdown

open MarkdownIntake.Document

def maxNesting : Nat := 20

structure Passage where
  chars : Array Char
  references : References

structure Memory where
  skips : Array (Option Nat)
  /-- For each length, where a run of backticks was last passed that had another length than wanted. -/
  passedRuns : List (Nat × Nat) := []
  searchedAll : Bool := false

namespace Memory

def blank (size : Nat) : Memory :=
  { skips := Array.replicate size none }

def noteSkip (memory : Memory) (pos next : Nat) : Memory :=
  { memory with skips := memory.skips.setIfInBounds pos (some next) }

def notePassed (memory : Memory) (count start : Nat) : Memory :=
  { memory with passedRuns := (count, start) :: memory.passedRuns.filter (·.1 != count) }

def closesNothing (memory : Memory) (count pos : Nat) : Bool :=
  -- After a search to the end, only a run that was passed further on makes another one worthwhile.
  memory.searchedAll && (memory.passedRuns.lookup count).getD 0 ≤ pos

end Memory

namespace Passage

def slice (p : Passage) (start stop : Nat) : List Char :=
  (p.chars.extract start stop).toList

def skipWhile (p : Passage) (inClass : Char → Bool) (stop start : Nat) : Nat :=
  if start < stop then
    match p.chars[start]? with
    | some c => if inClass c then p.skipWhile inClass stop (start + 1) else start
    | none => start
  else
    start
termination_by stop - start

def nextBacktick? (p : Passage) (start : Nat) : Option Nat :=
  let found := p.skipWhile (· ≠ '`') p.chars.size start
  if found < p.chars.size then some found else none

def closingBackticks? (p : Passage) (count stop start : Nat) (memory : Memory) :
    Option Nat × Memory :=
  if start < p.chars.size then
    match p.nextBacktick? start with
    | none => (none, { memory with searchedAll := true })
    | some found =>
      let after := max (found + 1) (p.skipWhile (· = '`') stop found)
      if after - found = count then
        (some found, memory)
      else
        p.closingBackticks? count stop (max (start + 1) after)
          (memory.notePassed (after - found) found)
  else
    (none, { memory with searchedAll := true })
termination_by p.chars.size - start

def codeEnd? (p : Passage) (stop pos start : Nat) (memory : Memory) : Option Nat × Memory :=
  if memory.closesNothing (start - pos) pos then (none, memory)
  else p.closingBackticks? (start - pos) stop start memory

def escapeEnd? (p : Passage) (stop pos : Nat) : Option Nat :=
  if pos + 1 < stop then
    match p.chars[pos + 1]? with
    | some '\n' => some (p.skipWhile isIndent stop (pos + 2))
    | some _ => some (pos + 2)
    | none => none
  else
    none

def angled? (p : Passage) (stop pos : Nat) : Option (List Char) :=
  let close := p.skipWhile (fun c => c ≠ '<' && c ≠ '>') stop (pos + 1)
  if close < stop && p.chars[close]? == some '>' then some (p.slice (pos + 1) close) else none

end Passage

def isAutolinkSchemeChar (c : Char) : Bool :=
  c.isAlphanum || c = '+' || c = '.' || c = '-'

def isAddress (cs : List Char) : Bool :=
  let scheme := cs.takeWhile isAutolinkSchemeChar
  match cs.drop scheme.length with
  | ':' :: rest =>
    2 ≤ scheme.length && scheme.length ≤ 32 && scheme.head?.any isLetter
      && rest.all fun c => 32 < c.toNat && c ≠ '<' && c ≠ '>'
  | _ => false

def isMailHostPart (part : List Char) : Bool :=
  1 ≤ part.length && part.length ≤ 63 && part.all (fun c => c.isAlphanum || c = '-')
    && part.head? != some '-' && part.getLast? != some '-'

def isMailUserChar (c : Char) : Bool :=
  c.isAlphanum || ".!#$%&'*+/=?^_`\x7b|\x7d~-".toList.contains c

def isMailAddress (cs : List Char) : Bool :=
  let user := cs.takeWhile isMailUserChar
  match cs.drop user.length with
  | '@' :: host => !user.isEmpty && (Text.splitAt '.' host).all isMailHostPart
  | _ => false

def autolinkAddress? (cs : List Char) : Option (List Char) :=
  let address? :=
    if isAddress cs then some cs
    else if isMailAddress cs then some ("mailto:".toList ++ cs)
    else none
  address?.filter fun address => LinkAddress.isAllowed (LinkAddress.written address)

structure LinkSpan where
  labelStart : Nat
  labelEnd : Nat
  address : String
  next : Nat

inductive Target where
  | cutOff
  | found (address : List Char) (rest : List Char)
  | malformed (rest : List Char)

def skipTitle (cs : List Char) : List Char :=
  let rest := cs.dropWhile isLinkGap
  if rest.length < cs.length then
    match readTitle? rest with
    | some (_, rest) => rest.dropWhile isLinkGap
    | none => rest
  else
    rest

def readTarget (cs : List Char) : Target :=
  match cs.dropWhile isLinkGap with
  | [] => .cutOff
  | cs =>
    let (address, rest) :=
      match readDestination? cs with
      | some (text, rest) =>
        let address := LinkAddress.written text
        if LinkAddress.isAllowed address then (address, skipTitle rest) else ([], cs)
      | none => ([], cs)
    match rest with
    | ')' :: rest => .found address rest
    | _ => .malformed rest

abbrev Skipper := Nat → Memory → Nat × Memory

/--
The position of the bracket that closes a label, from `pos` on. `depth` brackets are open, and unless
`nested` a link in the label means that there is no such position.
-/
def labelEnd? (p : Passage) (skip : Skipper) (nested : Bool) (stop pos depth : Nat)
    (memory : Memory) : Option Nat × Memory :=
  if pos < stop then
    let c := p.chars[pos]?
    if c == some ']' && depth == 1 then
      (some pos, memory)
    else
      let depth := if c == some ']' then depth - 1 else depth
      let (next, memory) := skip pos memory
      let next := max next (pos + 1)
      if c == some '[' then
        if next == pos + 1 then labelEnd? p skip nested stop next (depth + 1) memory
        else if nested then labelEnd? p skip nested stop next depth memory
        else (none, memory)
      else
        labelEnd? p skip nested stop next depth memory
  else
    (none, memory)
termination_by stop - pos

def referenceSpan? (p : Passage) (skip : Skipper) (stop labelStart labelEnd pos : Nat)
    (memory : Memory) : Option LinkSpan × Memory :=
  let (second, memory) :=
    if !p.references.isEmpty && pos < stop && p.chars[pos]? == some '[' then
      labelEnd? p skip true stop (pos + 1) 1 memory
    else
      (none, memory)
  let (label, next) := match second with
    | some close => (p.slice (pos + 1) close, close + 1)
    | none => ([], labelEnd + 1)
  let label := if label.isEmpty then p.slice labelStart labelEnd else label
  match p.references.lookup (referenceKey label) with
  | some address => (some { labelStart, labelEnd, address, next }, memory)
  | none => (none, memory)

def linkSpan? (p : Passage) (skip : Skipper) (isImage : Bool) (stop labelStart : Nat)
    (memory : Memory) : Option LinkSpan × Memory :=
  match labelEnd? p skip isImage stop labelStart 1 memory with
  | (none, memory) => (none, memory)
  | (some labelEnd, memory) =>
    let pos := labelEnd + 1
    if pos < stop && p.chars[pos]? == some '(' then
      match readTarget (p.slice (pos + 1) stop) with
      | .cutOff => (none, memory)
      | .found address rest =>
        (some { labelStart, labelEnd, address := String.ofList address, next := stop - rest.length },
          memory)
      | .malformed rest =>
        -- A link may still be one by reference; an image may not.
        if isImage then (none, memory)
        else referenceSpan? p skip stop labelStart labelEnd (stop - rest.length + 1) memory
    else
      referenceSpan? p skip stop labelStart labelEnd pos memory

def startsImage (p : Passage) (stop pos : Nat) : Bool :=
  pos + 1 < stop && p.chars[pos + 1]? == some '['

def htmlLength? (p : Passage) (stop pos : Nat) : Option Nat :=
  if pos + 2 < stop then HtmlTag.length? (p.slice pos p.chars.size) else none

def constructEnd? (p : Passage) (skip : Skipper) (stop pos : Nat) (memory : Memory) :
    Option Nat × Memory :=
  match p.chars[pos]? with
  | none => (none, memory)
  | some c =>
    if !endsPlainText c then
      (some (p.skipWhile (!endsPlainText ·) stop pos), memory)
    else if c = '\n' then
      (some (p.skipWhile isIndent stop (pos + 1)), memory)
    else if c = '\\' then
      (p.escapeEnd? stop pos, memory)
    else if c = '`' then
      let start := p.skipWhile (· = '`') stop pos
      let (close?, memory) := p.codeEnd? stop pos start memory
      (some ((close?.map (· + (start - pos))).getD start), memory)
    else if c = '[' then
      let (span, memory) := linkSpan? p skip false stop (pos + 1) memory
      (span.map (·.next), memory)
    else if c = '!' then
      if startsImage p stop pos then
        let (span, memory) := linkSpan? p skip true stop (pos + 2) memory
        (span.map (·.next), memory)
      else
        (none, memory)
    else if c = '<' then
      match p.angled? stop pos with
      | some text =>
        if (autolinkAddress? text).isSome then (some (pos + text.length + 2), memory)
        else ((htmlLength? p stop pos).map (pos + ·), memory)
      | none => ((htmlLength? p stop pos).map (pos + ·), memory)
    else if c = '&' then
      ((textReference? (p.slice (pos + 1) p.chars.size)).map (pos + ·.2), memory)
    else
      (none, memory)

/--
Pass over what stands at a position, with `room` levels of nesting left. With no level left, the rest
of the text is passed over.
-/
def skipAt (p : Passage) (stop : Nat) : (room : Nat) → Skipper
  | room, pos, memory =>
    match (memory.skips[pos]?).join with
    | some next => (next, memory)
    | none =>
      match room with
      | 0 => (stop + 1, memory.noteSkip pos (stop + 1))
      | room + 1 =>
        let (found, memory) := constructEnd? p (skipAt p stop room) stop pos memory
        let next := found.getD (pos + 1)
        (next, memory.noteSkip pos next)

structure Draft where
  marks : Array Mark := #[]
  delimiters : Array Delimiter := #[]
  /-- Plain text that has no mark yet, reversed. -/
  pending : List Char := []
  memory : Memory

namespace Draft

def addText (d : Draft) (cs : List Char) : Draft :=
  { d with pending := cs.reverse ++ d.pending }

def flush (d : Draft) : Draft :=
  if d.pending.isEmpty then
    d
  else
    let text : Mark := { kind := "text", content := String.ofList d.pending.reverse }
    { d with marks := d.marks.push text, pending := [] }

def push (d : Draft) (mark : Mark) : Draft :=
  let d := d.flush
  { d with marks := d.marks.push mark }

def append (d : Draft) (marks : List Mark) : Draft :=
  marks.foldl push d

def addBreak (d : Draft) : Draft :=
  let kind := if d.pending.take 2 == [' ', ' '] then "hardbreak" else "softbreak"
  { d with pending := d.pending.dropWhile (· = ' ') }.push { kind, tag := "br" }

def addDelimiter (d : Draft) (marker : Char) (text : String) (runLength : Nat)
    (flanks : Bool × Bool) : Draft :=
  let d := d.push { kind := "text", content := text }
  let delimiter : Delimiter :=
    { marker, runLength, index := d.marks.size - 1, opens := flanks.1, closes := flanks.2 }
  { d with delimiters := d.delimiters.push delimiter }

def addDelimiters (d : Draft) (marker : Char) (text : String) (runLength : Nat)
    (flanks : Bool × Bool) (count : Nat) : Draft :=
  (List.range count).foldl (fun d _ => d.addDelimiter marker text runLength flanks) d

def addSpecial (d : Draft) (content : List Char) (markup info : String) : Draft :=
  d.push { kind := "text_special", content := String.ofList content, markup, info }

end Draft

/-- The content of a code span: one space is dropped at both ends unless it is all spaces. -/
def codeContent (cs : List Char) : List Char :=
  let cs := cs.map fun c => if c = '\n' then ' ' else c
  if cs.head? == some ' ' && cs.getLast? == some ' ' && cs.any (· ≠ ' ') then
    (cs.drop 1).dropLast
  else
    cs

def linkOpen (address : String) : Mark :=
  { kind := "link_open", tag := "a", nesting := 1, attributes := [("href", address)] }

def linkClose : Mark :=
  { kind := "link_close", tag := "a", nesting := -1 }

def autolinkMarks (address : List Char) (text : List Char) : List Mark :=
  [linkOpen (String.ofList (LinkAddress.written address)),
    { kind := "text", content := String.ofList (LinkAddress.shown text) }, linkClose]

/-- The reader of the part of a passage between two positions, with some levels of nesting left. -/
abbrev RangeReader := (p : Passage) → (room stop pos : Nat) → Memory → List Mark × Memory

def readMarkers (p : Passage) (stop pos : Nat) (marker : Char) (d : Draft) : Draft × Nat :=
  let next := p.skipWhile (· = marker) stop pos
  let count := next - pos
  let before := if pos = 0 then ' ' else p.chars[pos - 1]?.getD ' '
  let after := if next < stop then p.chars[next]?.getD ' ' else ' '
  let flanks := flanking marker before after
  if marker = '~' then
    if count < 2 then
      (d.addText ['~'], pos + 1)
    else
      let d := if count % 2 = 1 then d.push { kind := "text", content := "~" } else d
      (d.addDelimiters '~' "~~" 0 flanks (count / 2), next)
  else
    (d.addDelimiters marker marker.toString count flanks count, next)

def readConstruct (inner : RangeReader) (p : Passage) (room stop pos : Nat) (c : Char) (d : Draft) :
    Draft × Nat :=
  let plain (d : Draft) := (d.addText [c], pos + 1)
  if !endsPlainText c then
    let next := p.skipWhile (!endsPlainText ·) stop pos
    (d.addText (p.slice pos next), next)
  else if c = '\n' then
    (d.addBreak, p.skipWhile isIndent stop (pos + 1))
  else if c = '\\' then
    match p.escapeEnd? stop pos with
    | none => plain d
    | some next =>
      match p.chars[pos + 1]? with
      | some '\n' => (d.push { kind := "hardbreak", tag := "br" }, next)
      | some e =>
        let content := if isAsciiPunctuation e then [e] else ['\\', e]
        (d.addSpecial content (String.ofList ['\\', e]) "escape", next)
      | none => plain d
  else if c = '`' then
    let start := p.skipWhile (· = '`') stop pos
    match p.codeEnd? stop pos start d.memory with
    | (some close, memory) =>
      let d := { d with memory }
      let content := String.ofList (codeContent (p.slice start close))
      let markup := String.ofList (p.slice pos start)
      (d.push { kind := "code_inline", tag := "code", content, markup }, close + (start - pos))
    | (none, memory) => ({ d with memory }.addText (p.slice pos start), start)
  else if c = '*' || c = '_' || c = '~' then
    readMarkers p stop pos c d
  else if c = '[' then
    match linkSpan? p (skipAt p stop room) false stop (pos + 1) d.memory with
    | (none, memory) => plain { d with memory }
    | (some span, memory) =>
      let (label, memory) := inner p (room - 1) span.labelEnd span.labelStart memory
      let d := ({ d with memory }.push (linkOpen span.address)).append label
      (d.push linkClose, span.next)
  else if c = '!' then
    if startsImage p stop pos then
      match linkSpan? p (skipAt p stop room) true stop (pos + 2) d.memory with
      | (none, memory) => plain { d with memory }
      | (some span, memory) =>
        let content := p.slice span.labelStart span.labelEnd
        let label : Passage := { p with chars := content.toArray }
        let (children, _) := inner label maxNesting label.chars.size 0
          (Memory.blank label.chars.size)
        let image : Mark :=
          { kind := "image"
            tag := "img"
            attributes := [("src", span.address), ("alt", "")]
            content := String.ofList content
            children }
        ({ d with memory }.push image, span.next)
    else
      plain d
  else if c = '<' then
    let text? := p.angled? stop pos
    match text?.bind fun text => (autolinkAddress? text).map (text, ·) with
    | some (text, address) => (d.append (autolinkMarks address text), pos + text.length + 2)
    | none =>
      match htmlLength? p stop pos with
      | some length =>
        let content := String.ofList (p.slice pos (pos + length))
        (d.push { kind := "html_inline", content }, pos + length)
      | none => plain d
  else if c = '&' then
    match textReference? (p.slice (pos + 1) p.chars.size) with
    | some (shown, length) =>
      (d.addSpecial shown (String.ofList (p.slice pos (pos + length))) "entity", pos + length)
    | none => plain d
  else
    plain d

def readFrom (inner : RangeReader) (p : Passage) (room stop pos : Nat) (d : Draft) : Draft :=
  if pos < stop then
    match p.chars[pos]? with
    | none => d
    | some c =>
      let (d, next) :=
        if room = 0 then (d.addText [c], pos + 1) else readConstruct inner p room stop pos c d
      readFrom inner p room stop (max next (pos + 1)) d
  else
    d
termination_by stop - pos

/--
Read a part of a passage, with labels of links and images read in turn. `depth` bounds how deep they
are nested; a label is shorter than what it stands in, so the length of the text is enough.
-/
def readRange : (depth : Nat) → RangeReader
  | 0, p, _, stop, pos, memory =>
    ([{ kind := "text", content := String.ofList (p.slice pos stop) }], memory)
  | depth + 1, p, room, stop, pos, memory =>
    let d := (readFrom (readRange depth) p room stop pos { memory }).flush
    (resolveMarkers d.delimiters d.marks, d.memory)

def inlineMarks (references : References) (text : List Char) : List Mark :=
  let p : Passage := { chars := text.toArray, references }
  let size := p.chars.size
  (readRange (size + 1) p maxNesting size 0 (Memory.blank size)).1

def lineMarks (references : References) (text : List Char) : List Mark :=
  joinTexts ((inlineMarks references text).map fun mark =>
    if mark.kind == "text_special" then { mark with kind := "text" } else mark)

end MarkdownIntake.Markdown
