import MarkdownIntake.Proofs.Document.Walk
import MarkdownIntake.Review.Basic

/-!
This module contains what each quality rule has to say, in terms of the nodes that break it, and how
the remarks of a review are put together from the rules.
-/

namespace MarkdownIntake.Review

open MarkdownIntake.Document MarkdownIntake.Number MarkdownIntake.Text

/-- A text that is missing, empty, or has no character but blanks. -/
def Blank (text? : Option String) : Prop :=
  ∀ text ∈ text?, ∀ c ∈ text.toList, isBlank c

theorem isMissing_iff_blank (text? : Option String) : isMissing text? = true ↔ Blank text? := by
  cases text? with
  | none => simp [isMissing, Blank]
  | some text => simp [isMissing, isBlankText, Blank]

instance (text? : Option String) : Decidable (Blank text?) :=
  decidable_of_iff _ (isMissing_iff_blank text?)

/-! ### Nodes that break a rule -/

def topTitles (forest : List Node) : List Node :=
  forest.filter fun node => node.kind = "heading" ∧ node.depth = some 1

def brokenImages (forest : List Node) : List Node :=
  (surface forest).filter fun node => node.kind = "image" ∧ Blank node.href

def silentImages (forest : List Node) : List Node :=
  (surface forest).filter fun node => node.kind = "image" ∧ Blank node.text

def brokenLinks (forest : List Node) : List Node :=
  (walk forest).filter fun node => node.kind = "link" ∧ Blank node.href

theorem firstLevelHeadings_eq (forest : List Node) : firstLevelHeadings forest = topTitles forest := by
  simp only [firstLevelHeadings, topHeadings, topTitles, List.filter_filter, Node.is]
  apply List.filter_congr
  intro node _
  rw [Bool.eq_iff_iff]
  simp [and_comm]

theorem filter_is_filter_missing (kind : String) (field : Node → Option String)
    (nodes : List Node) :
    ((nodes.filter (·.is kind)).filter fun node => isMissing (field node))
      =
    nodes.filter fun node => node.kind = kind ∧ Blank (field node) := by
  rw [List.filter_filter]
  apply List.filter_congr
  intro node _
  rw [Bool.eq_iff_iff]
  simp [and_comm, Node.is, isMissing_iff_blank]

theorem filter_missing_address_surfaceImages (forest : List Node) :
    ((surfaceImages forest).filter fun node => isMissing node.href) = brokenImages forest := by
  apply filter_is_filter_missing

theorem filter_missing_text_surfaceImages (forest : List Node) :
    ((surfaceImages forest).filter fun node => isMissing node.text) = silentImages forest := by
  apply filter_is_filter_missing

theorem filter_missing_address_links (forest : List Node) :
    ((links forest).filter fun node => isMissing node.href) = brokenLinks forest := by
  apply filter_is_filter_missing

theorem topTitles_eq_nil_iff (forest : List Node) :
    topTitles forest = [] ↔ ¬ ∃ node ∈ forest, node.kind = "heading" ∧ node.depth = some 1 := by
  simp [topTitles]

theorem brokenImages_eq_nil_iff (forest : List Node) :
    brokenImages forest = []
      ↔
    ∀ node, OnSurface node forest → node.kind = "image" → ¬ Blank node.href := by
  simp [brokenImages, mem_surface_iff]

theorem brokenLinks_eq_nil_iff (forest : List Node) :
    brokenLinks forest = []
      ↔
    ∀ node, Inside node forest → node.kind = "link" → ¬ Blank node.href := by
  simp [brokenLinks, mem_walk_iff_inside]

/-! ### The remarks of all rules -/

@[simp]
theorem issues_append (a b : Remarks) : (a ++ b).issues = a.issues ++ b.issues := rfl

@[simp]
theorem warnings_append (a b : Remarks) : (a ++ b).warnings = a.warnings ++ b.warnings := rfl

@[simp]
theorem findings_append (a b : Remarks) : (a ++ b).findings = a.findings ++ b.findings := rfl

@[simp]
theorem checks_append (a b : Remarks) : (a ++ b).checks = a.checks ++ b.checks := rfl

def titleFindings (markdown : String) (forest : List Node) : List Finding :=
  let titles := topTitles forest
  if 2 ≤ titles.length then titles.map (topHeadingFinding markdown titles.length) else []

def brokenImageFindings (markdown : String) (forest : List Node) : List Finding :=
  (brokenImages forest).map (brokenImageFinding markdown)

def silentImageFindings (markdown : String) (forest : List Node) : List Finding :=
  (silentImages forest).map (missingAltFinding markdown)

def brokenLinkFindings (markdown : String) (forest : List Node) : List Finding :=
  (brokenLinks forest).map (brokenLinkFinding markdown)

theorem headingRule_eq (markdown : String) (forest : List Node) :
    let findings := titleFindings markdown forest
    headingRule markdown forest
      =
    { issues := if topTitles forest = [] then [noTopHeading] else []
      warnings :=
        if findings = [] then [] else [s!"Multiple H1 headings found ({findings.length})"]
      findings
      checks :=
        if topTitles forest = [] then [⟨.fail, "No H1 heading (will use fallback title)"⟩]
        else if findings = [] then [⟨.pass, "Single H1 heading found"⟩]
        else [⟨.warn, s!"Multiple H1 headings ({findings.length}) - consider using only one"⟩] } := by
  intro findings
  simp only [headingRule, firstLevelHeadings_eq, findings, titleFindings]
  rcases topTitles forest with _ | ⟨first, _ | ⟨second, rest⟩⟩ <;> simp

theorem brokenImageRule_eq (markdown : String) (forest : List Node) :
    let images := surfaceImages forest
    let findings := brokenImageFindings markdown forest
    brokenImageRule markdown images
      =
    { issues := if findings = [] then [] else [s!"{findings.length} image(s) with missing URLs"]
      findings
      checks :=
        if findings ≠ [] then [⟨.fail, s!"{findings.length} broken image link(s)"⟩]
        else if images = [] then [] else [⟨.pass, "All images have URLs"⟩] } := by
  intro images findings
  simp only [brokenImageRule, images, filter_missing_address_surfaceImages, findings,
    brokenImageFindings]
  rcases brokenImages forest with _ | ⟨first, rest⟩ <;> simp

theorem missingAltRule_eq (markdown : String) (forest : List Node) :
    let images := surfaceImages forest
    let findings := silentImageFindings markdown forest
    missingAltRule markdown images
      =
    { warnings := if findings = [] then [] else [s!"{findings.length} image(s) missing alt text"]
      findings
      checks :=
        if findings ≠ [] then
          [⟨.warn, s!"{findings.length} image(s) missing alt text (accessibility concern)"⟩]
        else if images = [] then [] else [⟨.pass, "All images have alt text"⟩] } := by
  intro images findings
  simp only [missingAltRule, images, filter_missing_text_surfaceImages, findings,
    silentImageFindings]
  rcases silentImages forest with _ | ⟨first, rest⟩ <;> simp

theorem brokenLinkRule_eq (markdown : String) (forest : List Node) :
    let findings := brokenLinkFindings markdown forest
    brokenLinkRule markdown (links forest)
      =
    { issues := if findings = [] then [] else [s!"{findings.length} link(s) with missing URLs"]
      findings
      checks :=
        if findings ≠ [] then [⟨.fail, s!"{findings.length} broken link(s)"⟩]
        else if links forest = [] then [] else [⟨.pass, "All links have URLs"⟩] } := by
  intro findings
  simp only [brokenLinkRule, filter_missing_address_links, findings, brokenLinkFindings]
  rcases brokenLinks forest with _ | ⟨first, rest⟩ <;> simp

/-- Remarks that neither make a document fail nor locate anything. -/
structure Remarks.IsAdvice (remarks : Remarks) : Prop where
  issues_eq : remarks.issues = []
  findings_eq : remarks.findings = []

theorem isAdvice_externalImageRule (images : List Node) : (externalImageRule images).IsAdvice := by
  simp only [externalImageRule]
  split
  . exact ⟨rfl, rfl⟩
  . exact ⟨rfl, rfl⟩

theorem isAdvice_longLineRule (markdown : String) (limits : Limits) :
    (longLineRule markdown limits).IsAdvice := by
  simp only [longLineRule]
  split
  . exact ⟨rfl, rfl⟩
  . exact ⟨rfl, rfl⟩

theorem issues_remarks (markdown : String) (limits : Limits) (forest : List Node) :
    (remarks markdown limits forest).issues
      =
    (headingRule markdown forest).issues
      ++ (brokenImageRule markdown (surfaceImages forest)).issues
      ++ (brokenLinkRule markdown (links forest)).issues := by
  simp [remarks, missingAltRule_eq, (isAdvice_externalImageRule _).issues_eq,
    (isAdvice_longLineRule ..).issues_eq]

theorem issues_remarks_eq_nil_iff (markdown : String) (limits : Limits) (forest : List Node) :
    (remarks markdown limits forest).issues = []
      ↔
    topTitles forest ≠ [] ∧ brokenImages forest = [] ∧ brokenLinks forest = [] := by
  rw [issues_remarks, headingRule_eq, brokenImageRule_eq, brokenLinkRule_eq]
  simp [brokenImageFindings, brokenLinkFindings]

/-! ### Reviews that come to an end -/

/-- What the review of a document says that has these levels and whose entries can all be written. -/
def assessmentOf (markdown title : String) (limits : Limits) (forest : List Node) : Assessment where
  success := (remarks markdown limits forest).issues.isEmpty
  title
  metrics := some (measure markdown)
  census := some (census forest)
  remarks := remarks markdown limits forest

theorem review_eq_ok_iff {markdown title : String} {limits : Limits} {forest : List Node}
    {assessment : Assessment} :
    review markdown title limits (.ok forest) = .ok assessment
      ↔
    levelsComparable (census forest).headingLevels = true ∧ canTellLongLines markdown limits = true
      ∧ assessmentOf markdown title limits forest = assessment := by
  cases hlevels : levelsComparable (census forest).headingLevels <;>
    cases htell : canTellLongLines markdown limits <;> simp [review, assessmentOf, hlevels, htell]

theorem assessment_of_review {markdown title : String} {limits : Limits} {forest : List Node}
    {assessment : Assessment} (h : review markdown title limits (.ok forest) = .ok assessment) :
    assessmentOf markdown title limits forest = assessment :=
  (review_eq_ok_iff.mp h).2.2

theorem canTellLongLines_of_nonneg {limits : Limits} (h : 0 ≤ limits.maxLineLength)
    (markdown : String) : canTellLongLines markdown limits = true := by
  have hzero : isTellable 0 := decide_eq_true leastUntellable_pos
  rw [canTellLongLines, Int.min_eq_right h, hzero, Bool.true_or]

theorem review_of_levelsComparable (markdown title : String) (limits : Limits) (forest : List Node)
    (hbound : 0 ≤ limits.maxLineLength)
    (h : levelsComparable (census forest).headingLevels = true) :
    review markdown title limits (.ok forest) = .ok (assessmentOf markdown title limits forest) :=
  review_eq_ok_iff.mpr ⟨h, canTellLongLines_of_nonneg hbound markdown, rfl⟩

theorem review_eq_ok {markdown title : String} {limits : Limits} {forest : List Node}
    {assessment : Assessment} (h : review markdown title limits (.ok forest) = .ok assessment) :
    assessment.remarks = remarks markdown limits forest
      ∧ assessment.success = (remarks markdown limits forest).issues.isEmpty := by
  rw [← assessment_of_review h]
  exact ⟨rfl, rfl⟩

end MarkdownIntake.Review
