import MarkdownIntake.Markdown.Character
import MarkdownIntake.Text.Lines

/-!
This module contains the recognition of raw HTML: single tags, comments and the like in running text,
and the lines that start and end a block of HTML. Each reader takes the text from the opening angle
bracket on and yields the rest after what it recognised.
-/

namespace MarkdownIntake.Markdown.HtmlTag

open MarkdownIntake.Text

def after? (start : String) (cs : List Char) : Option (List Char) :=
  if start.toList.isPrefixOf cs then some (cs.drop start.length) else none

def afterFirst? (mark : List Char) : List Char → Option (List Char)
  | [] => if mark.isEmpty then some [] else none
  | c :: rest =>
    if mark.isPrefixOf (c :: rest) then some ((c :: rest).drop mark.length)
    else afterFirst? mark rest

def isNameChar (c : Char) : Bool :=
  c.isAlphanum || c = '-'

def startsAttribute (c : Char) : Bool :=
  isLetter c || c = '_' || c = ':'

def isAttributeChar (c : Char) : Bool :=
  c.isAlphanum || c = ':' || c = '.' || c = '_' || c = '-'

def isBareValueChar (c : Char) : Bool :=
  32 < c.toNat && !("\"'=<>`".toList.contains c)

def afterName? : List Char → Option (List Char)
  | [] => none
  | c :: rest => if isLetter c then some (rest.dropWhile isNameChar) else none

def afterValue? (cs : List Char) : Option (List Char) :=
  match cs with
  | '"' :: rest => afterFirst? ['"'] rest
  | '\'' :: rest => afterFirst? ['\''] rest
  | c :: _ => if isBareValueChar c then some (cs.dropWhile isBareValueChar) else none
  | [] => none

def afterAttribute? (cs : List Char) : Option (List Char) :=
  match cs with
  | [] => none
  | c :: rest =>
    if isBlank c then
      match rest.dropWhile isBlank with
      | [] => none
      | c :: rest =>
        if startsAttribute c then
          let rest := rest.dropWhile isAttributeChar
          match rest.dropWhile isBlank with
          | '=' :: value => some ((afterValue? (value.dropWhile isBlank)).getD rest)
          | _ => some rest
        else
          none
    else
      none

def afterAttributes : (fuel : Nat) → List Char → List Char
  | 0, cs => cs
  | fuel + 1, cs =>
    match afterAttribute? cs with
    | some rest => afterAttributes fuel rest
    | none => cs

def afterOpeningTag? (cs : List Char) : Option (List Char) := do
  let rest ← after? "<" cs
  let rest ← afterName? rest
  let rest := (afterAttributes rest.length rest).dropWhile isBlank
  match rest with
  | '>' :: rest => some rest
  | '/' :: '>' :: rest => some rest
  | _ => none

def afterClosingTag? (cs : List Char) : Option (List Char) := do
  let rest ← after? "</" cs
  let rest ← afterName? rest
  after? ">" (rest.dropWhile isBlank)

/-- The rest after the end of a comment, read in steps that never stop between two hyphens. -/
def afterCommentBody? : List Char → Option (List Char)
  | '-' :: '-' :: '>' :: rest => some rest
  | '-' :: '-' :: _ :: rest => afterCommentBody? rest
  | '-' :: c :: rest => if c = '-' then none else afterCommentBody? rest
  | '-' :: _ => none
  | _ :: rest => afterCommentBody? rest
  | [] => none

def afterComment? (cs : List Char) : Option (List Char) :=
  (after? "<!-->" cs).or <| (after? "<!--->" cs).or <| (after? "<!--" cs).bind afterCommentBody?

def afterInstruction? (cs : List Char) : Option (List Char) :=
  (after? "<?" cs).bind (afterFirst? ['?', '>'])

def afterDeclaration? (cs : List Char) : Option (List Char) :=
  match after? "<!" cs with
  | some (c :: rest) => if isLetter c then afterFirst? ['>'] rest else none
  | _ => none

def afterCharacterData? (cs : List Char) : Option (List Char) :=
  (after? "<![CDATA[" cs).bind (afterFirst? [']', ']', '>'])

def length? (cs : List Char) : Option Nat :=
  let rest? :=
    (afterOpeningTag? cs).or <| (afterClosingTag? cs).or <| (afterComment? cs).or <|
      (afterInstruction? cs).or <| (afterDeclaration? cs).or <| afterCharacterData? cs
  rest?.map (cs.length - ·.length)

def rawElements : List String := ["script", "pre", "style", "textarea"]

def blockElements : List String := [
  "address", "article", "aside", "base", "basefont", "blockquote", "body", "caption", "center",
  "col", "colgroup", "dd", "details", "dialog", "dir", "div", "dl", "dt", "fieldset", "figcaption",
  "figure", "footer", "form", "frame", "frameset", "h1", "h2", "h3", "h4", "h5", "h6", "head",
  "header", "hr", "html", "iframe", "legend", "li", "link", "main", "menu", "menuitem", "nav",
  "noframes", "ol", "optgroup", "option", "p", "param", "search", "section", "summary", "table",
  "tbody", "td", "tfoot", "th", "thead", "title", "tr", "track", "ul"]

inductive Block where
  | raw
  | delimited (closer : String)
  | element
  | tag
deriving Repr, DecidableEq

def Block.interrupts (block : Block) : Bool :=
  block != .tag

def splitName (cs : List Char) : String × List Char :=
  (String.ofList ((cs.takeWhile isNameChar).map Char.toLower), cs.dropWhile isNameChar)

def endsName (isBlock : Bool) (cs : List Char) : Bool :=
  match cs with
  | [] => true
  | '/' :: '>' :: _ => isBlock
  | c :: _ => isBlank c || c = '>'

def blockAt? (line : List Char) : Option Block :=
  match line with
  | '<' :: rest =>
    let (name, afterName) := splitName rest
    if rawElements.contains name && endsName false afterName then some .raw
    else if "!--".toList.isPrefixOf rest then some (.delimited "-->")
    else if "?".toList.isPrefixOf rest then some (.delimited "?>")
    else if "!".toList.isPrefixOf rest && (rest.drop 1).head?.any isLetter then
      some (.delimited ">")
    else if "![CDATA[".toList.isPrefixOf rest then some (.delimited "]]>")
    else
      let (name, afterName) := splitName (if rest.head? == some '/' then rest.drop 1 else rest)
      if blockElements.contains name && endsName true afterName then some .element
      else
        match (afterOpeningTag? line).or (afterClosingTag? line) with
        | some after => if after.all isBlank then some .tag else none
        | none => none
  | _ => none

def closesRaw (line : List Char) : Bool :=
  let line := line.map Char.toLower
  rawElements.any fun name => occursIn ("</".toList ++ name.toList ++ ['>']) line

def Block.endsAt (block : Block) (line : List Char) : Bool :=
  match block with
  | .raw => closesRaw line
  | .delimited closer => occursIn closer.toList line
  | .element | .tag => line.isEmpty

end MarkdownIntake.Markdown.HtmlTag
