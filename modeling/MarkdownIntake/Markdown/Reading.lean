import MarkdownIntake.Document.Assembly
import MarkdownIntake.Markdown.Block

/-!
This module contains the reading of a Markdown document into its tree.
-/

namespace MarkdownIntake.Markdown

open MarkdownIntake.Document

def readDocument (markdown : String) : List Node :=
  match assemble (documentMarks markdown) with
  | .ok forest => forest
  | .error _ => []

end MarkdownIntake.Markdown
