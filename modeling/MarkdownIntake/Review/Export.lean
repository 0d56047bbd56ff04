import MarkdownIntake.Review.Finding
import MarkdownIntake.Storage.Files

/-!
This module contains the export of findings to a file.
-/

namespace MarkdownIntake.Review

open MarkdownIntake.Storage

def defaultFindingsFile : String := "validation-errors.csv"

def exportFindings (findings : List Finding) (path : Path) (files : Files) :
    Except Files.WriteError (Option Files) :=
  if findings.isEmpty then .ok none else (files.write? path (findingsText findings)).map some

end MarkdownIntake.Review
