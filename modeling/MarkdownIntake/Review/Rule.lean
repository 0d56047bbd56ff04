import MarkdownIntake.Document.Locate
import MarkdownIntake.Document.Node
import MarkdownIntake.Number.Literal
import MarkdownIntake.Review.Census
import MarkdownIntake.Review.Finding
import MarkdownIntake.Text.Blank
import MarkdownIntake.Text.Lines

/-!
This module contains the quality rules. Each rule looks at the document on its own and yields
remarks; the remarks of all rules are put together in a fixed order.
-/

namespace MarkdownIntake.Review

open MarkdownIntake.Document MarkdownIntake.Number MarkdownIntake.Text

inductive Status where
  | pass
  | fail
  | warn
  | info
deriving Repr, DecidableEq, Inhabited

def Status.label : Status → String
  | .pass => "pass"
  | .fail => "fail"
  | .warn => "warn"
  | .info => "info"

structure Check (σ : Type := String) where
  status : Status
  message : σ
deriving Repr, DecidableEq, Inhabited

structure Remarks (σ : Type := String) where
  issues : List σ := []
  warnings : List σ := []
  findings : List (Finding σ) := []
  checks : List (Check σ) := []
deriving Repr, DecidableEq, Inhabited

instance : Append Remarks where
  append a b :=
    { issues := a.issues ++ b.issues
      warnings := a.warnings ++ b.warnings
      findings := a.findings ++ b.findings
      checks := a.checks ++ b.checks }

structure Limits where
  maxLineLength : Int := 120
  /-- This many long lines pass without remark. -/
  longLineLimit : Int := 10
deriving Repr, DecidableEq

def isMissing : Option String → Bool
  | none => true
  | some text => isBlankText text

def orElse (text : Option String) (standIn : String) : String :=
  match text with
  | none => standIn
  | some text => if text.isEmpty then standIn else text

def firstLevelHeadings (forest : List Node) : List Node :=
  (topHeadings forest).filter (·.depth == some 1)

def noTopHeading : String := "No H1 heading found"

def topHeadingFinding (markdown : String) (count : Nat) (heading : Node) : Finding :=
  let element := "# " ++ orElse heading.text "(no text)"
  { severity := .warning
    category := multipleTopHeadings
    place := locate markdown [element]
    element
    description := "Multiple H1 headings found (SEO concern)"
    additionalInfo := s!"Total H1s: {count}" }

def headingRule (markdown : String) (forest : List Node) : Remarks :=
  let headings := firstLevelHeadings forest
  let count := headings.length
  if count = 0 then
    { issues := [noTopHeading]
      checks := [⟨.fail, "No H1 heading (will use fallback title)"⟩] }
  else if count = 1 then
    { checks := [⟨.pass, "Single H1 heading found"⟩] }
  else
    { warnings := [s!"Multiple H1 headings found ({count})"]
      findings := headings.map (topHeadingFinding markdown count)
      checks := [⟨.warn, s!"Multiple H1 headings ({count}) - consider using only one"⟩] }

def brokenImageFinding (markdown : String) (image : Node) : Finding :=
  let alt := orElse image.text "(no alt text)"
  { severity := .critical
    category := brokenImage
    place := locate markdown ["![" ++ image.text.getD "" ++ "]()"]
    element := "![" ++ alt ++ "]()"
    description := "Image has empty URL"
    additionalInfo := "Alt: \"" ++ alt ++ "\"" }

def brokenImageRule (markdown : String) (images : List Node) : Remarks :=
  let broken := images.filter (isMissing ·.href)
  let count := broken.length
  if count = 0 then
    { checks := if images.isEmpty then [] else [⟨.pass, "All images have URLs"⟩] }
  else
    { issues := [s!"{count} image(s) with missing URLs"]
      findings := broken.map (brokenImageFinding markdown)
      checks := [⟨.fail, s!"{count} broken image link(s)"⟩] }

def missingAltFinding (markdown : String) (image : Node) : Finding :=
  let element := "![](" ++ image.href.getD "" ++ ")"
  { severity := .warning
    category := missingAltText
    place := locate markdown [element]
    element
    description := "Image is missing alt text (accessibility issue)"
    additionalInfo := "URL: \"" ++ orElse image.href "(no URL)" ++ "\"" }

def missingAltRule (markdown : String) (images : List Node) : Remarks :=
  let silent := images.filter (isMissing ·.text)
  let count := silent.length
  if count = 0 then
    { checks := if images.isEmpty then [] else [⟨.pass, "All images have alt text"⟩] }
  else
    { warnings := [s!"{count} image(s) missing alt text"]
      findings := silent.map (missingAltFinding markdown)
      checks := [⟨.warn, s!"{count} image(s) missing alt text (accessibility concern)"⟩] }

def brokenLinkFinding (markdown : String) (link : Node) : Finding :=
  let label := orElse link.text "(no text)"
  { severity := .critical
    category := brokenLink
    place := locate markdown ["[" ++ label ++ "]()", "[" ++ label ++ "]( )"]
    element := "[" ++ label ++ "]()"
    description := "Link has empty URL"
    additionalInfo := "Text: \"" ++ label ++ "\"" }

def brokenLinkRule (markdown : String) (links : List Node) : Remarks :=
  let broken := links.filter (isMissing ·.href)
  let count := broken.length
  if count = 0 then
    { checks := if links.isEmpty then [] else [⟨.pass, "All links have URLs"⟩] }
  else
    { issues := [s!"{count} link(s) with missing URLs"]
      findings := broken.map (brokenLinkFinding markdown)
      checks := [⟨.fail, s!"{count} broken link(s)"⟩] }

def isExternal : Option String → Bool
  | none => false
  | some href => "http://".isPrefixOf href || "https://".isPrefixOf href

def externalImageRule (images : List Node) : Remarks :=
  let count := (images.filter (isExternal ·.href)).length
  if count = 0 then
    {}
  else
    { warnings := [s!"{count} external image(s) - consider hosting in Contentful"]
      checks :=
        [⟨.info, s!"{count} external image(s) - consider uploading to Contentful assets"⟩] }

def longLines (markdown : String) (maxLineLength : Int) : Nat :=
  ((lines markdown.toList).filter fun line => maxLineLength < line.length).length

def hasManyLongLines (markdown : String) (limits : Limits) : Bool :=
  limits.longLineLimit < longLines markdown limits.maxLineLength

/--
Whether an entry on long lines can be written. It tells the bound in decimal, and only a bound below zero
can be passed by a line and still have too many digits for that.
-/
def canTellLongLines (markdown : String) (limits : Limits) : Bool :=
  isTellable (min limits.maxLineLength 0) || !hasManyLongLines markdown limits

def longLineRule (markdown : String) (limits : Limits) : Remarks :=
  let count := longLines markdown limits.maxLineLength
  let bound := limits.maxLineLength
  if hasManyLongLines markdown limits then
    { warnings := [s!"{count} lines exceed {bound} characters"]
      checks := [⟨.info, s!"{count} long lines (>{bound} chars) - may affect readability"⟩] }
  else
    {}

def remarks (markdown : String) (limits : Limits) (forest : List Node) : Remarks :=
  let images := surfaceImages forest
  headingRule markdown forest
    ++ brokenImageRule markdown images
    ++ missingAltRule markdown images
    ++ brokenLinkRule markdown (links forest)
    ++ externalImageRule images
    ++ longLineRule markdown limits

end MarkdownIntake.Review
