import MarkdownIntake.Document.Mark
import MarkdownIntake.Document.Scaffold
import MarkdownIntake.Number.Literal
import MarkdownIntake.Text.Blank

/-!
This module contains the assembly of a stream of marks into a tree. The marks are read one by one; a
mark that closes a container while none is open is passed over, and containers that are never closed
reach to the end of the stream. Lines of text are streams of their own inside the stream of blocks.
-/

namespace MarkdownIntake.Document

open MarkdownIntake.Number MarkdownIntake.Text

def containerNames : List (String × String) := [
  ("bullet_list", "list"),
  ("ordered_list", "list"),
  ("list_item", "list_item"),
  ("blockquote", "blockquote"),
  ("table", "table"),
  ("thead", "table_head"),
  ("tbody", "table_body"),
  ("tr", "table_row"),
  ("th", "table_cell"),
  ("td", "table_cell"),
  ("paragraph", "paragraph"),
  ("heading", "heading"),
  ("strong", "strong"),
  ("em", "em"),
  ("s", "del")]

def Mark.containerKind (mark : Mark) : String :=
  (containerNames.lookup mark.baseKind).getD mark.baseKind

/-! ### Lines of text -/

def Mark.spanNode (mark : Mark) : Node :=
  if mark.kind == "link_open" then { kind := "link", href := mark.attribute? "href" }
  else { kind := mark.containerKind }

def Mark.inlineLeaf (mark : Mark) : Node :=
  if mark.kind == "image" then
    { kind := "image", href := mark.attribute? "src", text := some (inlineSource mark.children) }
  else if mark.kind == "code_inline" then
    { kind := "codespan", text := some mark.content }
  else if mark.kind == "softbreak" || mark.kind == "hardbreak" then
    { kind := "br" }
  else if mark.kind == "html_inline" then
    { kind := "html", text := some mark.content }
  else
    { kind := "text", text := some mark.content }

/-- A line of text under construction; each open container notes the marks read inside it. -/
abbrev Spans := Scaffold (List Mark)

namespace Spans

def note (spans : Spans) (marks : List Mark) : Spans :=
  spans.modify fun (node, run) => (node, run ++ marks)

def labelled (container : Node × List Mark) : Node × List Mark :=
  let (node, run) := container
  if node.kind == "link" then ({ node with text := some (inlineSource run.dropLast) }, run)
  else (node, run)

/-- Close the innermost container; the marks inside it are inside the one around it as well. -/
def closeLabelled (spans : Spans) : Spans :=
  match spans.opened with
  | [] => spans
  | (_, run) :: _ => note (spans.modify labelled).close run

def step (spans : Spans) (mark : Mark) : Spans :=
  let spans := spans.note [mark]
  if mark.opensInline then spans.push mark.spanNode []
  else if mark.closesInline then spans.closeLabelled
  else spans.add [mark.inlineLeaf]

end Spans

def assembleLine (marks : List Mark) : List Node :=
  (marks.foldl Spans.step {}).forest

/-! ### Blocks -/

def Mark.headingLevel (mark : Mark) : Except LiteralError Int :=
  readInteger (String.ofList (mark.tag.toList.drop 1))

def Mark.containerNode (mark : Mark) : Except LiteralError Node := do
  if mark.baseKind == "heading" then
    let depth ← mark.headingLevel
    return { kind := mark.containerKind, depth := some depth }
  else
    return { kind := mark.containerKind }

def Node.keepsText (node : Node) : Bool :=
  node.is "heading" || node.is "paragraph"

def fenceLanguage (info : String) : Option String :=
  (firstWord? info.toList).map String.ofList

def Mark.leafNode (mark : Mark) : Node :=
  if mark.kind == "fence" then
    { kind := "code", text := some mark.content, lang := fenceLanguage mark.info }
  else if mark.kind == "code_block" then
    { kind := "code", text := some mark.content }
  else if mark.kind == "html_block" then
    { kind := "html", text := some mark.content }
  else
    { kind := mark.kind }

abbrev Blocks := Scaffold Unit

namespace Blocks

def keepText (blocks : Blocks) (text : String) : Blocks :=
  blocks.modify fun (node, note) =>
    (if node.keepsText then { node with text := some text } else node, note)

def step (blocks : Blocks) (mark : Mark) : Except LiteralError Blocks := do
  if mark.opensBlock then
    return blocks.push (← mark.containerNode) ()
  else if mark.closesBlock then
    return blocks.close
  else if mark.kind == "inline" then
    return (blocks.keepText mark.content).add (assembleLine mark.children)
  else
    return blocks.add [mark.leafNode]

end Blocks

def assemble (marks : List Mark) : Except LiteralError (List Node) :=
  (marks.foldlM Blocks.step {}).map Scaffold.forest

end MarkdownIntake.Document
