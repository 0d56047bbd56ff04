import MarkdownIntake.Text.Blank
import MarkdownIntake.Text.Lines

/-!
This module contains the title of a document: the text of the first line that starts with a number
sign and a blank. The blanks after the sign may span lines, so a sign alone on its line takes the
text of the next line that has any.
-/

namespace MarkdownIntake.Document

open MarkdownIntake.Text

def defaultTitle : String := "Untitled Markdown Import"

def titleAfterSign? : List Char → Option (List Char)
  | [] => none
  | c :: rest =>
    if isBlank c then
      match rest.dropWhile isBlank with
      | [] => none
      | body => some (trimRight (body.takeWhile (· ≠ '\n')))
    else
      none

/--
The first title in a text, where `lineStart` says whether the text starts a line.
-/
def titleFrom? : (lineStart : Bool) → List Char → Option (List Char)
  | _, [] => none
  | lineStart, c :: rest =>
    if lineStart && c = '#' then
      match titleAfterSign? rest with
      | some title => some title
      | none => titleFrom? false rest
    else
      titleFrom? (c = '\n') rest

def title (markdown : String) (fallback : String) : String :=
  match titleFrom? true markdown.toList with
  | some found => String.ofList found
  | none => fallback

end MarkdownIntake.Document
