import MarkdownIntake.Markdown.Character
import MarkdownIntake.Text.Lines

/-!
This module contains the lines of a document as the containers around them see them: without the
markers of quotes, and with the column at which the content starts. A tab reaches to the next
multiple of four columns of the whole line.
-/

namespace MarkdownIntake.Markdown

structure Line where
  text : List Char
  /-- The number of characters of the text in front of the content. -/
  shift : Nat
  /-- The column at which the content starts; -1 if the line only goes on with a paragraph. -/
  indent : Int
  /-- The column of the whole line at which the text starts. -/
  origin : Nat
  terminated : Bool
deriving Repr, Inhabited

def columnAfter (origin column : Nat) (c : Char) : Nat :=
  if c = '\t' then column + (4 - (column + origin) % 4) else column + 1

def columnAfterAll (origin column : Nat) (cs : List Char) : Nat :=
  cs.foldl (columnAfter origin) column

namespace Line

def content (line : Line) : List Char :=
  line.text.drop line.shift

def isEmpty (line : Line) : Bool :=
  line.content.isEmpty

def ofText (text : List Char) (terminated : Bool) : Line :=
  let gap := text.takeWhile isIndent
  { text
    shift := gap.length
    indent := columnAfterAll 0 0 gap
    origin := 0
    terminated }

def absent : Line :=
  .ofText [] false

/--
Drop `indent` columns of a text that starts at column `column`. A tab that reaches further leaves
spaces, and the first `shift` characters count as spaces whatever they are.
-/
def dropColumns (origin indent : Nat) : (column shift : Nat) → List Char → List Char
  | column, _, [] => List.replicate (column - indent) ' '
  | column, shift, c :: cs =>
    if indent ≤ column then List.replicate (column - indent) ' ' ++ c :: cs
    else if isIndent c then
      dropColumns origin indent (columnAfter origin column c) (shift - 1) cs
    else if 0 < shift then dropColumns origin indent (column + 1) (shift - 1) cs
    else c :: cs

def fromColumn (line : Line) (indent : Nat) : List Char :=
  dropColumns line.origin indent 0 line.shift line.text

def ending (line : Line) : List Char :=
  if line.terminated then ['\n'] else []

end Line

/--
The lines of a document. What follows the last line feed is a line only if it has a character that
does not indent.
-/
def documentLines (cs : List Char) : List Line :=
  go (Text.lines cs)
where
  go : List (List Char) → List Line
    | [] => []
    | [last] => if last.all isIndent then [] else [.ofText last false]
    | text :: rest => .ofText text true :: go rest

def uniformText : List Char → List Char
  | [] => []
  | '\r' :: '\n' :: rest => '\n' :: uniformText rest
  | c :: rest =>
    (if c = '\r' then '\n' else if c.toNat = 0 then '\uFFFD' else c) :: uniformText rest

end MarkdownIntake.Markdown
