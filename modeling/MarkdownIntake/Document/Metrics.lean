import MarkdownIntake.Text.Blank
import MarkdownIntake.Text.Lines

/-!
This module contains the size of a source text.
-/

namespace MarkdownIntake.Document

open MarkdownIntake.Text

structure Metrics where
  characters : Nat
  lines : Nat
  words : Nat
deriving Repr, DecidableEq

/--
The size of a text. Words are the pieces between runs of blanks; a text that starts or ends with a
blank has an empty piece there, which counts as well.
-/
def measure (markdown : String) : Metrics :=
  let text := markdown.toList
  { characters := text.length
    lines := (lines text).length
    words := blankRuns text + 1 }

end MarkdownIntake.Document
