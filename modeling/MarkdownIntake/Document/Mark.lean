/-!
This module contains marks: the elements of the flat stream that a Markdown text is read into.
A container is a pair of marks, one that opens it and one that closes it.
-/

namespace MarkdownIntake.Document

structure Mark where
  /-- What the mark is. Marks that open and close a container end in `_open` and `_close`. -/
  kind : String
  /-- The element that the mark would be shown as; a heading has its level here. -/
  tag : String := ""
  /-- 1 if the mark opens a container, -1 if it closes one. -/
  nesting : Int := 0
  attributes : List (String × String) := []
  content : String := ""
  markup : String := ""
  info : String := ""
  children : List Mark := []
deriving Repr, BEq, Inhabited

namespace Mark

def attribute? (mark : Mark) (name : String) : Option String :=
  mark.attributes.lookup name

def withoutEnding? (text ending : String) : Option String :=
  if text.endsWith ending then
    some (String.ofList (text.toList.take (text.length - ending.length)))
  else
    none

def baseKind (mark : Mark) : String :=
  (withoutEnding? mark.kind "_open").getD ((withoutEnding? mark.kind "_close").getD mark.kind)

def opensBlock (mark : Mark) : Bool :=
  mark.nesting == 1

def closesBlock (mark : Mark) : Bool :=
  mark.nesting == -1

/-- Whether the mark opens a container in a line of text. A link always does. -/
def opensInline (mark : Mark) : Bool :=
  mark.kind == "link_open" || mark.nesting == 1

def closesInline (mark : Mark) : Bool :=
  mark.kind != "link_open" && mark.nesting == -1

end Mark

mutual

def Mark.source : Mark → String
  | ⟨kind, _, nesting, attributes, content, markup, _, children⟩ =>
    if kind == "text" || kind == "html_inline" then
      content
    else if kind == "code_inline" then
      markup ++ content ++ markup
    else if kind == "softbreak" || kind == "hardbreak" then
      "\n"
    else if kind == "image" then
      "![" ++ inlineSource children ++ "](" ++ (attributes.lookup "src").getD "" ++ ")"
    else if nesting != 0 then
      if "link_".isPrefixOf kind then "" else markup
    else
      content

def inlineSource : List Mark → String
  | [] => ""
  | mark :: rest => mark.source ++ inlineSource rest

end

end MarkdownIntake.Document
