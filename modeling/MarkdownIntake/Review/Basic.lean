import MarkdownIntake.Document.Metrics
import MarkdownIntake.Review.Census
import MarkdownIntake.Review.Rule
import MarkdownIntake.Text.Quoted

/-!
This module contains the review of a document: its metrics, its census and the remarks of the
quality rules. A document that cannot be read has its metrics and a single issue.
-/

namespace MarkdownIntake.Review

open MarkdownIntake.Document MarkdownIntake.Text

structure Assessment (σ : Type := String) where
  success : Bool
  title : σ
  metrics : Option Metrics
  parsed : Bool := true
  parseError : Option σ := none
  census : Option (Census σ) := none
  remarks : Remarks σ
deriving Repr

inductive ReviewError where
  /-- Some headings have a level and some have none, so the levels have no order. -/
  | levelsNotComparable
  /-- The bound on the length of a line has too many digits to be told. -/
  | untellableBound
deriving Repr, DecidableEq

namespace Assessment

variable {σ : Type}

def issues (review : Assessment σ) : List σ := review.remarks.issues

def warnings (review : Assessment σ) : List σ := review.remarks.warnings

def findings (review : Assessment σ) : List (Finding σ) := review.remarks.findings

def checks (review : Assessment σ) : List (Check σ) := review.remarks.checks

def criticalCount (review : Assessment) : Nat :=
  (review.findings.filter (·.severity = .critical)).length

def warningCount (review : Assessment) : Nat :=
  (review.findings.filter (·.severity = .warning)).length

end Assessment

def parseFailure : String := "Failed to parse markdown - syntax errors present"

/--
Review a document, given the tree that its text was read as, or the reason why it could not be read.
A document that was read passes if it has no issue.
-/
def review (markdown title : String) (limits : Limits) (reading : Except String (List Node)) :
    Except ReviewError Assessment :=
  let metrics := some (measure markdown)
  match reading with
  | .error reason =>
    .ok
      { success := false
        title
        metrics
        parsed := false
        parseError := some reason
        remarks := { issues := [parseFailure] } }
  | .ok forest =>
    let census := census forest
    if !levelsComparable census.headingLevels then
      .error .levelsNotComparable
    else if !canTellLongLines markdown limits then
      .error .untellableBound
    else
      let remarks := remarks markdown limits forest
      .ok
        { success := remarks.issues.isEmpty
          title
          metrics
          census := some census
          remarks }

def notes (forest : List Node) (outcome : Except ReviewError Assessment) : List String :=
  let broken := (surfaceImages forest).filter (isMissing ·.href)
  let images := broken.map fun image =>
    "Broken image with alt text " ++ quoted (orElse image.text "(no alt text)")
  match outcome with
  | .error .levelsNotComparable => []
  | .error .untellableBound => images
  | .ok review =>
    let counts := s!"{review.issues.length} issue(s), {review.warnings.length} warning(s), "
      ++ s!"{review.findings.length} detailed error(s)"
    images ++ [s!"Validated {quoted review.title}: " ++ counts]

end MarkdownIntake.Review
