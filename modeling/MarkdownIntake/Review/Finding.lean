import MarkdownIntake.Csv
import MarkdownIntake.Document.Locate

/-!
This module contains findings: defects of a document that are located in its source, and their
projection onto the columns of a table.
-/

namespace MarkdownIntake.Review

open MarkdownIntake.Document MarkdownIntake.Text

inductive Severity (σ : Type := String) where
  | critical
  | warning
  | labelled (label : σ)
deriving Repr, DecidableEq, Inhabited

def Severity.label {σ : Type} [Spelled σ] : Severity σ → σ
  | .critical => Spelled.ofString "Critical"
  | .warning => Spelled.ofString "Warning"
  | .labelled label => label

structure Finding (σ : Type := String) where
  severity : Severity σ
  category : σ
  place : Place σ
  element : σ
  description : σ
  /-- What sets this finding apart from others of its category: an address, a label, a count. -/
  additionalInfo : σ := by exact ""
deriving Repr, DecidableEq

def multipleTopHeadings : String := "Multiple H1"

def brokenImage : String := "Broken Image"

def missingAltText : String := "Missing Alt Text"

def brokenLink : String := "Broken Link"

def Finding.row (finding : Finding) : List String :=
  [finding.severity.label, finding.category, finding.place.text, finding.element,
    finding.description, finding.additionalInfo]

def columns : List String :=
  ["Type", "Category", "Line", "Element", "Description", "Additional Info"]

def findingsText (findings : List Finding) : String :=
  String.ofList (Csv.text ((columns :: findings.map Finding.row).map (·.map String.toList)))

end MarkdownIntake.Review
