import MarkdownIntake.Markdown.Reading
import MarkdownIntake.Proofs.Review.Remarks
import MarkdownIntake.Proofs.Text.LineEnds
import Mathlib.Data.List.Forall2

/-!
This module contains the review of a copy that has a carriage return before each line feed. The tree of
the copy is the same, but the rules also look at the text itself: the places of findings and the number
of long lines come from there.
-/

namespace MarkdownIntake.Review

open MarkdownIntake.Document MarkdownIntake.Text

def crlfCopy (markdown : String) : String :=
  String.ofList (withReturns markdown.toList)

@[simp]
theorem toList_crlfCopy (markdown : String) :
    (crlfCopy markdown).toList = withReturns markdown.toList :=
  String.toList_ofList

theorem readDocument_crlfCopy {markdown : String} (h : '\r' ∉ markdown.toList) :
    Markdown.readDocument (crlfCopy markdown) = Markdown.readDocument markdown := by
  unfold Markdown.readDocument Markdown.documentMarks
  rw [toList_crlfCopy, uniformText_withReturns h]

/-! ### Places -/

theorem findLine?_eq (markdown snippet : String) :
    findLine? markdown snippet 0 = (feedsBefore? snippet.toList markdown.toList).map (· + 1) := by
  obtain ⟨hcount, -⟩ := indexFrom?_eq snippet.toList markdown.toList 0
  rw [findLine?, ← hcount, Option.map_map]
  rfl

theorem locate_crlfCopy {snippets : List String} (h : ∀ snippet ∈ snippets, InOneLine snippet.toList)
    (markdown : String) : locate (crlfCopy markdown) snippets = locate markdown snippets := by
  have hfind : snippets.findSome? (findLine? (crlfCopy markdown) · 0)
      = snippets.findSome? (findLine? markdown · 0) := by
    rw [← List.head?_filterMap, ← List.head?_filterMap]
    apply congrArg List.head?
    apply List.filterMap_congr
    intro snippet hsnippet
    rw [findLine?_eq, findLine?_eq, toList_crlfCopy, (h snippet hsnippet).feedsBefore?_withReturns]
  rw [locate, locate, hfind]

theorem locate_eq_unknown {markdown : String} {snippets : List String}
    (h : ∀ snippet ∈ snippets, feedsBefore? snippet.toList markdown.toList = none) :
    locate markdown snippets = .unknown := by
  have hfind : snippets.findSome? (findLine? markdown · 0) = none := by
    rw [List.findSome?_eq_none_iff]
    intro snippet hsnippet
    rw [findLine?_eq, h snippet hsnippet]
    rfl
  rw [locate, hfind]

/-! ### Findings -/

/--
A finding and that for the copy. An element in one line has the same place in both texts; else the place
is lost in the text that does not break its lines as the element does.
-/
structure SameFinding (finding copy : Finding) : Prop where
  rest : { copy with place := finding.place } = finding
  place : InOneLine finding.element.toList → copy.place = finding.place
  copyPlace : '\n' ∈ finding.element.toList → '\r' ∉ finding.element.toList → copy.place = .unknown
  ownPlace : '\r' ∈ finding.element.toList → finding.place = .unknown

/-- A snippet breaks lines just as an element does, and it does not start with a break. -/
structure BreaksAs (element snippet : List Char) : Prop where
  feeds : '\n' ∈ snippet ↔ '\n' ∈ element
  returns : '\r' ∈ snippet ↔ '\r' ∈ element
  last : snippet.getLast? = some '\r' ↔ element.getLast? = some '\r'
  first : snippet.head? ≠ some '\n'

theorem BreaksAs.self {element : List Char} (h : element.head? ≠ some '\n') :
    BreaksAs element element :=
  ⟨.rfl, .rfl, .rfl, h⟩

theorem SameFinding.of_breaksAs {markdown : String} (h : '\r' ∉ markdown.toList) {severity : Severity}
    {category element description additionalInfo : String} {snippets : List String}
    (hsnippets : ∀ snippet ∈ snippets, BreaksAs element.toList snippet.toList) :
    SameFinding
      { severity, category, place := locate markdown snippets, element, description, additionalInfo }
      { severity, category, place := locate (crlfCopy markdown) snippets, element, description,
        additionalInfo } where
  rest := rfl
  place := by
    rintro ⟨hfeed, hlast⟩
    refine locate_crlfCopy (fun snippet hsnippet => ?_) markdown
    have hbreaks := hsnippets snippet hsnippet
    exact ⟨mt hbreaks.feeds.mp hfeed, mt hbreaks.last.mp hlast⟩
  copyPlace := by
    intro hfeed hreturn
    apply locate_eq_unknown
    intro snippet hsnippet
    have hbreaks := hsnippets snippet hsnippet
    rw [toList_crlfCopy]
    exact feedsBefore?_withReturns_of_feed (hbreaks.feeds.mpr hfeed) (mt hbreaks.returns.mp hreturn)
      hbreaks.first _
  ownPlace := by
    intro hreturn
    apply locate_eq_unknown
    intro snippet hsnippet
    exact feedsBefore?_of_return ((hsnippets snippet hsnippet).returns.mpr hreturn) h

section

variable {markdown : String} (h : '\r' ∉ markdown.toList)
include h

theorem sameFinding_topHeading (count : Nat) (heading : Node) :
    SameFinding (topHeadingFinding markdown count heading)
      (topHeadingFinding (crlfCopy markdown) count heading) := by
  apply SameFinding.of_breaksAs h
  simp only [List.mem_singleton, forall_eq]
  apply BreaksAs.self
  simp

theorem sameFinding_missingAlt (image : Node) :
    SameFinding (missingAltFinding markdown image) (missingAltFinding (crlfCopy markdown) image) := by
  apply SameFinding.of_breaksAs h
  simp only [List.mem_singleton, forall_eq]
  apply BreaksAs.self
  simp

theorem sameFinding_brokenImage (image : Node) :
    SameFinding (brokenImageFinding markdown image) (brokenImageFinding (crlfCopy markdown) image) := by
  apply SameFinding.of_breaksAs h
  simp only [List.mem_singleton, forall_eq]
  -- The label that stands in for a missing text has no break either.
  cases image.text with
  | none => constructor <;> decide
  | some text =>
    by_cases htext : text = ""
    . subst htext
      constructor <;> decide
    . simp only [orElse, Option.getD_some, String.isEmpty_iff, htext, if_false]
      apply BreaksAs.self
      simp

theorem sameFinding_brokenLink (link : Node) :
    SameFinding (brokenLinkFinding markdown link) (brokenLinkFinding (crlfCopy markdown) link) := by
  apply SameFinding.of_breaksAs h
  simp only [List.mem_cons, List.not_mem_nil, or_false, forall_eq_or_imp, forall_eq]
  refine ⟨.self (by simp), ?_⟩
  constructor
  all_goals simp [List.getLast?_cons, List.getLast?_append]

end

/-! ### Rules -/

structure Remarks.SameButPlaces (remarks copy : Remarks) : Prop where
  issues : copy.issues = remarks.issues
  warnings : copy.warnings = remarks.warnings
  findings : List.Forall₂ SameFinding remarks.findings copy.findings
  checks : copy.checks = remarks.checks

theorem forall₂_sameFinding_map {finding copy : Node → Finding}
    (h : ∀ node, SameFinding (finding node) (copy node)) (nodes : List Node) :
    List.Forall₂ SameFinding (nodes.map finding) (nodes.map copy) := by
  rw [List.forall₂_map_left_iff, List.forall₂_map_right_iff, List.forall₂_same]
  exact fun node _ => h node

theorem Remarks.SameButPlaces.append {a b c d : Remarks} (h : a.SameButPlaces b)
    (hnext : c.SameButPlaces d) : (a ++ c).SameButPlaces (b ++ d) where
  issues := by rw [issues_append, issues_append, h.issues, hnext.issues]
  warnings := by rw [warnings_append, warnings_append, h.warnings, hnext.warnings]
  findings := List.rel_append h.findings hnext.findings
  checks := by rw [checks_append, checks_append, h.checks, hnext.checks]

theorem Remarks.SameButPlaces.self_of_isAdvice {remarks : Remarks} (h : remarks.IsAdvice) :
    remarks.SameButPlaces remarks :=
  ⟨rfl, rfl, h.findings_eq ▸ .nil, rfl⟩

section

variable {markdown : String} (h : '\r' ∉ markdown.toList)
include h

theorem sameButPlaces_headingRule (forest : List Node) :
    (headingRule markdown forest).SameButPlaces (headingRule (crlfCopy markdown) forest) := by
  simp only [headingRule]
  split
  . exact ⟨rfl, rfl, .nil, rfl⟩
  . split
    . exact ⟨rfl, rfl, .nil, rfl⟩
    . exact ⟨rfl, rfl, forall₂_sameFinding_map (sameFinding_topHeading h _) _, rfl⟩

theorem sameButPlaces_brokenImageRule (images : List Node) :
    (brokenImageRule markdown images).SameButPlaces (brokenImageRule (crlfCopy markdown) images) := by
  simp only [brokenImageRule]
  split
  . exact ⟨rfl, rfl, .nil, rfl⟩
  . exact ⟨rfl, rfl, forall₂_sameFinding_map (sameFinding_brokenImage h) _, rfl⟩

theorem sameButPlaces_missingAltRule (images : List Node) :
    (missingAltRule markdown images).SameButPlaces (missingAltRule (crlfCopy markdown) images) := by
  simp only [missingAltRule]
  split
  . exact ⟨rfl, rfl, .nil, rfl⟩
  . exact ⟨rfl, rfl, forall₂_sameFinding_map (sameFinding_missingAlt h) _, rfl⟩

theorem sameButPlaces_brokenLinkRule (links : List Node) :
    (brokenLinkRule markdown links).SameButPlaces (brokenLinkRule (crlfCopy markdown) links) := by
  simp only [brokenLinkRule]
  split
  . exact ⟨rfl, rfl, .nil, rfl⟩
  . exact ⟨rfl, rfl, forall₂_sameFinding_map (sameFinding_brokenLink h) _, rfl⟩

theorem exists_sameButPlaces_remarks (forest : List Node) :
    ∃ others copyOthers : Remarks, others.SameButPlaces copyOthers
      ∧ ∀ limits,
        remarks markdown limits forest = others ++ longLineRule markdown limits
          ∧ remarks (crlfCopy markdown) limits forest
            = copyOthers ++ longLineRule (crlfCopy markdown) limits := by
  refine ⟨_, _, ?_, fun _ => ⟨rfl, rfl⟩⟩
  refine ((((sameButPlaces_headingRule h forest).append ?_).append ?_).append ?_).append ?_
  . exact sameButPlaces_brokenImageRule h _
  . exact sameButPlaces_missingAltRule h _
  . exact sameButPlaces_brokenLinkRule h _
  . exact .self_of_isAdvice (isAdvice_externalImageRule _)

end

/-! ### Long lines -/

def linesAtLimit (markdown : String) (maxLineLength : Int) : Nat :=
  ((lines markdown.toList).dropLast.filter fun line => (line.length : Int) = maxLineLength).length

theorem length_filter_long_map (maxLineLength : Int) (pieces : List (List Char)) :
    ((pieces.map (· ++ ['\r'])).filter fun line => maxLineLength < (line.length : Int)).length
      =
    (pieces.filter fun line => maxLineLength < (line.length : Int)).length
      + (pieces.filter fun line => (line.length : Int) = maxLineLength).length := by
  induction pieces with
  | nil => rfl
  | cons piece pieces ih =>
    simp only [List.map_cons, List.filter_cons, List.length_append, List.length_singleton,
      decide_eq_true_eq]
    split <;> split <;> split <;> simp only [List.length_cons, ih] <;> omega

theorem longLines_crlfCopy (markdown : String) (maxLineLength : Int) :
    longLines (crlfCopy markdown) maxLineLength
      =
    longLines markdown maxLineLength + linesAtLimit markdown maxLineLength := by
  unfold longLines linesAtLimit
  rw [toList_crlfCopy, lines_withReturns]
  rcases List.eq_nil_or_concat (lines markdown.toList) with hnil | ⟨first, last, hlines⟩
  . exact absurd hnil (splitAt_ne_nil _ _)
  . rw [hlines, List.concat_eq_append, List.dropLast_concat, List.getLast?_concat,
      List.filter_append, List.filter_append, List.length_append, List.length_append,
      length_filter_long_map]
    simp only [Option.toList_some]
    omega

/-- No line of a text is long only in the copy, or what is long there still passes without remark. -/
def KeepsLongLines (limits : Limits) (markdown : String) : Prop :=
  linesAtLimit markdown limits.maxLineLength = 0
    ∨ longLines markdown limits.maxLineLength + linesAtLimit markdown limits.maxLineLength
      ≤ limits.longLineLimit

theorem longLineRule_crlfCopy {limits : Limits} {markdown : String}
    (h : KeepsLongLines limits markdown) :
    longLineRule (crlfCopy markdown) limits = longLineRule markdown limits := by
  unfold longLineRule hasManyLongLines
  rw [longLines_crlfCopy]
  rcases h with h | h
  . rw [h, Nat.add_zero]
  . have hmany : ¬ limits.longLineLimit < (longLines markdown limits.maxLineLength : Int) := by omega
    have hcopy : ¬ limits.longLineLimit
        < ((longLines markdown limits.maxLineLength
          + linesAtLimit markdown limits.maxLineLength : Nat) : Int) := by
      omega
    simp only [decide_eq_false hmany, decide_eq_false hcopy, Bool.false_eq_true, if_false]

theorem canTellLongLines_crlfCopy (markdown : String) (limits : Limits) :
    canTellLongLines (crlfCopy markdown) limits = canTellLongLines markdown limits := by
  rcases Int.lt_or_le limits.maxLineLength 0 with hbound | hbound
  . have hnone : linesAtLimit markdown limits.maxLineLength = 0 := by
      rw [linesAtLimit, List.length_eq_zero_iff, List.filter_eq_nil_iff]
      intro line _ hline
      rw [decide_eq_true_eq] at hline
      omega
    unfold canTellLongLines hasManyLongLines
    rw [longLines_crlfCopy, hnone, Nat.add_zero]
  . rw [canTellLongLines_of_nonneg hbound, canTellLongLines_of_nonneg hbound]

/-! ### Reviews -/

/--
A review and that of the copy. They differ in places of findings over several lines, and in what is
said last, on long lines.
-/
structure SameReview (limits : Limits) (markdown : String) (assessment copy : Assessment) : Prop where
  success : copy.success = assessment.success
  parsed : copy.parsed = assessment.parsed
  parseError : copy.parseError = assessment.parseError
  issues : copy.issues = assessment.issues
  census : copy.census = assessment.census
  findings : List.Forall₂ SameFinding assessment.findings copy.findings
  advice : assessment.parsed = true →
    ∃ warnings checks,
      assessment.warnings = warnings ++ (longLineRule markdown limits).warnings
        ∧ copy.warnings = warnings ++ (longLineRule (crlfCopy markdown) limits).warnings
        ∧ assessment.checks = checks ++ (longLineRule markdown limits).checks
        ∧ copy.checks = checks ++ (longLineRule (crlfCopy markdown) limits).checks
  longLines : (assessment.parsed = true → KeepsLongLines limits markdown) →
    copy.warnings = assessment.warnings ∧ copy.checks = assessment.checks

inductive SameOutcome (limits : Limits) (markdown : String) :
    Except ReviewError Assessment → Except ReviewError Assessment → Prop where
  | error (error : ReviewError) : SameOutcome limits markdown (.error error) (.error error)
  | ok {assessment copy : Assessment} (h : SameReview limits markdown assessment copy) :
    SameOutcome limits markdown (.ok assessment) (.ok copy)

theorem sameReview_assessmentOf {limits : Limits} {markdown title : String} {forest : List Node}
    {others copyOthers : Remarks} (h : others.SameButPlaces copyOthers)
    (hothers : remarks markdown limits forest = others ++ longLineRule markdown limits)
    (hcopyOthers : remarks (crlfCopy markdown) limits forest
      = copyOthers ++ longLineRule (crlfCopy markdown) limits) :
    SameReview limits markdown (assessmentOf markdown title limits forest)
      (assessmentOf (crlfCopy markdown) title limits forest) := by
  have hadvice := isAdvice_longLineRule markdown limits
  have hcopyAdvice := isAdvice_longLineRule (crlfCopy markdown) limits
  have hissues : (copyOthers ++ longLineRule (crlfCopy markdown) limits).issues
      = (others ++ longLineRule markdown limits).issues := by
    rw [issues_append, issues_append, hadvice.issues_eq, hcopyAdvice.issues_eq, h.issues]
  unfold assessmentOf
  rw [hothers, hcopyOthers]
  exact {
    success := by dsimp only; rw [hissues]
    parsed := rfl
    parseError := rfl
    issues := hissues
    census := rfl
    findings := by
      simp only [Assessment.findings, findings_append, hadvice.findings_eq, hcopyAdvice.findings_eq,
        List.append_nil]
      exact h.findings
    advice := by
      intro _
      refine ⟨others.warnings, others.checks, rfl, ?_, rfl, ?_⟩
      . rw [← h.warnings]
        rfl
      . rw [← h.checks]
        rfl
    longLines := by
      intro hkeeps
      rw [longLineRule_crlfCopy (hkeeps rfl)]
      simp only [Assessment.warnings, Assessment.checks, warnings_append, checks_append, h.warnings,
        h.checks, and_self] }

theorem sameReview_of_error {limits : Limits} {markdown title reason : String}
    {metrics copyMetrics : Option Metrics} :
    SameReview limits markdown
      { success := false, title, metrics, parsed := false, parseError := some reason
        remarks := { issues := [parseFailure] } }
      { success := false, title, metrics := copyMetrics, parsed := false, parseError := some reason
        remarks := { issues := [parseFailure] } } where
  success := rfl
  parsed := rfl
  parseError := rfl
  issues := rfl
  census := rfl
  findings := .nil
  advice := nofun
  longLines := fun _ => ⟨rfl, rfl⟩

/--
The review of a copy with the other ends of lines, for every reader that gives the same tree for both
texts; the reader of Markdown does so.
-/
theorem review_crlfCopy {markdown : String} (hreturn : '\r' ∉ markdown.toList)
    (reader : String → Except String (List Node)) (hreader : reader (crlfCopy markdown) = reader markdown)
    (title : String) (limits : Limits) :
    SameOutcome limits markdown (review markdown title limits (reader markdown))
        (review (crlfCopy markdown) title limits (reader (crlfCopy markdown)))
      ∧ Markdown.readDocument (crlfCopy markdown) = Markdown.readDocument markdown := by
  refine ⟨?_, readDocument_crlfCopy hreturn⟩
  rw [hreader]
  cases reader markdown with
  | error reason => exact .ok sameReview_of_error
  | ok forest =>
    cases hlevels : levelsComparable (census forest).headingLevels with
    | false =>
      simp only [review, hlevels]
      exact .error _
    | true =>
      have hcopyTell := canTellLongLines_crlfCopy markdown limits
      cases htell : canTellLongLines markdown limits with
      | false =>
        rw [htell] at hcopyTell
        simp only [review, hlevels, htell, hcopyTell]
        exact .error _
      | true =>
        rw [htell] at hcopyTell
        obtain ⟨others, copyOthers, hsame, hremarks⟩ := exists_sameButPlaces_remarks hreturn forest
        rw [review_eq_ok_iff.mpr ⟨hlevels, htell, rfl⟩, review_eq_ok_iff.mpr ⟨hlevels, hcopyTell, rfl⟩]
        exact .ok (sameReview_assessmentOf hsame (hremarks limits).1 (hremarks limits).2)

theorem review_crlfCopy_twoTitles :
    '\r' ∉ "# A\n\n# B\n\n![](c.png)\n".toList
      ∧ SameOutcome {} "# A\n\n# B\n\n![](c.png)\n"
        (review "# A\n\n# B\n\n![](c.png)\n" "A" {}
          (.ok (Markdown.readDocument "# A\n\n# B\n\n![](c.png)\n")))
        (review (crlfCopy "# A\n\n# B\n\n![](c.png)\n") "A" {}
          (.ok (Markdown.readDocument (crlfCopy "# A\n\n# B\n\n![](c.png)\n")))) := by
  have hreturn : '\r' ∉ "# A\n\n# B\n\n![](c.png)\n".toList := by decide
  exact ⟨hreturn, (review_crlfCopy hreturn (fun markdown => .ok (Markdown.readDocument markdown))
    (congrArg Except.ok (readDocument_crlfCopy hreturn)) "A" {}).1⟩

def placesAndWarnings (markdown : String) (limits : Limits) : Option (List Place × List String) :=
  (review markdown "" limits (.ok (Markdown.readDocument markdown))).toOption.map fun assessment =>
    (assessment.findings.map (·.place), assessment.warnings)

/--
Labels over two lines: the one with a line feed is found in the text only, and the one that has a return
before the feed in the copy only. A line of the text is just as long as it may be.
-/
theorem places_exchanged_in_crlfCopy :
    let markdown := "[a\nb]() [a&#13;\nb]()\n"
    '\r' ∉ markdown.toList
      ∧ Markdown.readDocument (crlfCopy markdown) = Markdown.readDocument markdown
      ∧ placesAndWarnings markdown { maxLineLength := 12, longLineLimit := 0 }
        = some ([.line 1, .unknown], [])
      ∧ placesAndWarnings (crlfCopy markdown) { maxLineLength := 12, longLineLimit := 0 }
        = some ([.unknown, .line 1], ["1 lines exceed 12 characters"]) := by
  have hreturn : '\r' ∉ "[a\nb]() [a&#13;\nb]()\n".toList := by decide
  exact ⟨hreturn, readDocument_crlfCopy hreturn, by decide +kernel, by decide +kernel⟩

end MarkdownIntake.Review
