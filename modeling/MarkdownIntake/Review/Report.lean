import MarkdownIntake.Console.Notice
import MarkdownIntake.Console.Table
import MarkdownIntake.Json.Printer
import MarkdownIntake.Number.Grouped
import MarkdownIntake.Number.Literal
import MarkdownIntake.Review.Basic

/-!
This module contains the report of a review, as text for a console or as JSON. The text has its parts
in a fixed order: metrics, parse status, structure, quality checks, and whether the document passed.
-/

namespace MarkdownIntake.Review

open MarkdownIntake.Console MarkdownIntake.Document MarkdownIntake.Json MarkdownIntake.Number
open MarkdownIntake.Text

inductive ReportFormat where
  | text
  | json
deriving Repr, DecidableEq

def ruleLine : String :=
  String.ofList (List.replicate 60 '=')

def Status.icon : Status → String
  | .pass => "✅"
  | .fail => "❌"
  | .warn => "⚠️ "
  | .info => "ℹ️ "

def metricsPart (title : String) (metrics : Metrics) : String :=
  printAll
    [ "📊 Document Metrics:",
      s!"   Characters: {grouped metrics.characters}",
      s!"   Lines: {grouped metrics.lines}",
      s!"   Words (approx): {grouped metrics.words}",
      s!"   Title: \"{title}\"",
      "" ]

def levelText : Option Int → String
  | none => "None"
  | some level => toString level

def censusPart (census : Census) : String :=
  printAll <|
    [ "🔍 Content Structure Analysis:", s!"   Headings: {census.headings}" ]
      ++ (census.headingLevels.map fun (level, count) => s!"      H{levelText level}: {count}")
      ++ [s!"   Code blocks: {census.codeBlocks}"]
      ++ (if census.languages.isEmpty then []
        else ["      Languages: " ++ String.intercalate ", " census.languages])
      ++ [ s!"   Images: {census.images}",
        s!"   Tables: {census.tables}",
        s!"   Blockquotes: {census.blockquotes}",
        s!"   Lists: {census.lists}",
        s!"   Links: {census.links}",
        "" ]

def checkLine (check : Check) : String :=
  printMarkup s!"   {check.status.icon} {escape check.message}"

def bullets (remarks : List String) : String :=
  printAll (remarks.map ("   • " ++ ·))

def contentPart (review : Assessment) : String :=
  match review.census with
  | some census =>
    print "✅ Markdown syntax is valid and parseable" ++ print "" ++ censusPart census
      ++ print "⚠️  Quality Checks:" ++ String.join (review.checks.map checkLine)
  | none =>
    let reason := review.parseError.getD ""
    printMarkup s!"[red]❌ Markdown parsing failed:[/] {escape reason}"

def verdictPart (review : Assessment) : String :=
  let verdict :=
    if review.success then print "✅ VALIDATION PASSED - No critical issues found"
    else print "❌ VALIDATION FAILED - Critical issues found:" ++ bullets review.issues
  let warnings :=
    if review.warnings.isEmpty then ""
    else print "" ++ print "⚠️  WARNINGS (non-critical):" ++ bullets review.warnings
  print ruleLine ++ verdict ++ warnings ++ print ruleLine

def findingsTable (findings : List Finding) : Table :=
  { title := "Detailed findings"
    columns :=
      [ { name := "Type" },
        { name := "Category" },
        { name := "Line", alignRight := true },
        { name := "Element", overflow := .fold },
        { name := "Additional Info", overflow := .fold } ]
    rows := findings.map fun finding =>
      [ finding.severity.label, finding.category, finding.place.text,
        shown (escape finding.element), shown (escape finding.additionalInfo) ] }

def reportText (review : Assessment) (verbose : Bool) : String :=
  let metrics := match review.metrics with
    | some metrics => metricsPart review.title metrics
    | none => ""
  let table :=
    if verbose && !review.findings.isEmpty then (findingsTable review.findings).draw else ""
  printAll ["", ruleLine, "📋 MARKDOWN VALIDATION REPORT", ruleLine, ""] ++ metrics
    ++ contentPart review ++ print "" ++ verdictPart review ++ print "" ++ table

section

variable {σ : Type} [Spelled σ]

def number (n : Nat) : Value σ :=
  .int n

def Finding.json (finding : Finding σ) : Value σ :=
  let line := match finding.place with
    | .line number => Value.int number
    | place => .str place.text
  .obj
    [ ("severity", .str finding.severity.label),
      ("category", .str finding.category),
      ("line", line),
      ("element", .str finding.element),
      ("description", .str finding.description),
      ("additional_info", .str finding.additionalInfo) ]

def metricsJson (metrics : Metrics) : Value σ :=
  .obj
    [ ("characters", number metrics.characters),
      ("lines", number metrics.lines),
      ("words", number metrics.words) ]

def levelName : Option Int → String
  | none => "null"
  | some level => toString level

def Census.json (census : Census σ) : Value σ :=
  .obj
    [ ("headings", number census.headings),
      ("heading_levels", .obj (census.headingLevels.map fun (level, count) =>
        (levelName level, number count))),
      ("code_blocks", number census.codeBlocks),
      ("languages", .strings census.languages),
      ("images", number census.images),
      ("tables", number census.tables),
      ("blockquotes", number census.blockquotes),
      ("lists", number census.lists),
      ("links", number census.links) ]

def Check.json (check : Check σ) : Value σ :=
  .obj [("status", .str (Spelled.ofString check.status.label)), ("message", .str check.message)]

def Assessment.json (review : Assessment σ) : Value σ :=
  .obj
    [ ("success", .bool review.success),
      ("title", .str review.title),
      ("parsed", .bool review.parsed),
      ("parse_error", .ofOption review.parseError),
      ("issues", .strings review.issues),
      ("warnings", .strings review.warnings),
      ("detailed_errors", .arr (review.findings.map Finding.json)),
      ("metrics", (review.metrics.map metricsJson).getD .null),
      ("census", (review.census.map Census.json).getD .null),
      ("checks", .arr (review.checks.map Check.json)) ]

end

inductive ReportError where
  | untellableLevel
deriving Repr, DecidableEq

def ReportError.message : ReportError → String
  | .untellableLevel => untellableMessage

/-- Whether the levels of the headings can be told. The counts are those of things held in memory. -/
def Census.hasTellableLevels {σ : Type} (census : Census σ) : Bool :=
  census.headingLevels.all (·.1.all isTellable)

/-- A text that tells the levels of the headings, if there is one. -/
def Assessment.told {σ : Type} (review : Assessment σ) (text : String) : Except ReportError String :=
  if review.census.all Census.hasTellableLevels then .ok text else .error .untellableLevel

def jsonReport {σ : Type} [Spelled σ] (review : Assessment σ) : Except ReportError String :=
  review.told (review.json.render Style.report ++ "\n")

def report (review : Assessment) (format : ReportFormat) (verbose : Bool) : Except ReportError String :=
  match format with
  | .text => review.told (reportText review verbose)
  | .json => jsonReport review

def exportSummary (review : Assessment) (path : String) : String :=
  printAll
    [ s!"📄 Validation errors exported to: {path}",
      s!"   Total errors/warnings: {review.findings.length}",
      s!"   Critical: {review.criticalCount}",
      s!"   Warnings: {review.warningCount}",
      "" ]

end MarkdownIntake.Review
