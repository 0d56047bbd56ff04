import MarkdownIntake.Proofs.Review.Verdict

/-!
This module contains the findings of a review as a whole: they come in four blocks, one for each rule
that locates what breaks it, and every number in the remarks is the length of one of the blocks.
-/

namespace MarkdownIntake.Review

open MarkdownIntake.Document

theorem findings_remarks (markdown : String) (limits : Limits) (forest : List Node) :
    (remarks markdown limits forest).findings
      =
    titleFindings markdown forest ++ brokenImageFindings markdown forest
      ++ silentImageFindings markdown forest ++ brokenLinkFindings markdown forest := by
  simp [remarks, headingRule_eq, brokenImageRule_eq, missingAltRule_eq, brokenLinkRule_eq,
    (isAdvice_externalImageRule _).findings_eq, (isAdvice_longLineRule ..).findings_eq]

/-! ### Each block on its own -/

theorem of_mem_titleFindings {markdown : String} {forest : List Node} {finding : Finding}
    (h : finding ∈ titleFindings markdown forest) :
    finding.severity = .warning ∧ finding.category = multipleTopHeadings
      ∧ finding.additionalInfo = s!"Total H1s: {(titleFindings markdown forest).length}" := by
  simp only [titleFindings] at *
  split at h
  . next hseveral =>
    obtain ⟨heading, -, rfl⟩ := List.mem_map.mp h
    simp [topHeadingFinding, hseveral]
  . simp at h

theorem of_mem_brokenImageFindings {markdown : String} {forest : List Node} {finding : Finding}
    (h : finding ∈ brokenImageFindings markdown forest) :
    finding.severity = .critical ∧ finding.category = brokenImage := by
  obtain ⟨image, -, rfl⟩ := List.mem_map.mp h
  exact ⟨rfl, rfl⟩

theorem of_mem_silentImageFindings {markdown : String} {forest : List Node} {finding : Finding}
    (h : finding ∈ silentImageFindings markdown forest) :
    finding.severity = .warning ∧ finding.category = missingAltText := by
  obtain ⟨image, -, rfl⟩ := List.mem_map.mp h
  exact ⟨rfl, rfl⟩

theorem of_mem_brokenLinkFindings {markdown : String} {forest : List Node} {finding : Finding}
    (h : finding ∈ brokenLinkFindings markdown forest) :
    finding.severity = .critical ∧ finding.category = brokenLink := by
  obtain ⟨link, -, rfl⟩ := List.mem_map.mp h
  exact ⟨rfl, rfl⟩

/-! ### Counting by severity -/

def ofSeverity (severity : Severity) (findings : List Finding) : List Finding :=
  findings.filter (·.severity = severity)

theorem ofSeverity_append (severity : Severity) (a b : List Finding) :
    ofSeverity severity (a ++ b) = ofSeverity severity a ++ ofSeverity severity b := by
  simp [ofSeverity]

theorem ofSeverity_of_forall_eq {severity : Severity} {findings : List Finding}
    (h : ∀ finding ∈ findings, finding.severity = severity) :
    ofSeverity severity findings = findings := by
  simpa [ofSeverity] using h

theorem ofSeverity_of_forall_ne {severity : Severity} {findings : List Finding}
    (h : ∀ finding ∈ findings, finding.severity ≠ severity) :
    ofSeverity severity findings = [] := by
  simpa [ofSeverity] using h

theorem ofSeverity_critical_remarks (markdown : String) (limits : Limits) (forest : List Node) :
    ofSeverity .critical (remarks markdown limits forest).findings
      =
    brokenImageFindings markdown forest ++ brokenLinkFindings markdown forest := by
  rw [findings_remarks]
  simp only [ofSeverity_append]
  rw [ofSeverity_of_forall_ne (fun _ h => by simp [(of_mem_titleFindings h).1]),
    ofSeverity_of_forall_eq (fun _ h => (of_mem_brokenImageFindings h).1),
    ofSeverity_of_forall_ne (fun _ h => by simp [(of_mem_silentImageFindings h).1]),
    ofSeverity_of_forall_eq (fun _ h => (of_mem_brokenLinkFindings h).1)]
  simp

theorem ofSeverity_warning_remarks (markdown : String) (limits : Limits) (forest : List Node) :
    ofSeverity .warning (remarks markdown limits forest).findings
      =
    titleFindings markdown forest ++ silentImageFindings markdown forest := by
  rw [findings_remarks]
  simp only [ofSeverity_append]
  rw [ofSeverity_of_forall_eq (fun _ h => (of_mem_titleFindings h).1),
    ofSeverity_of_forall_ne (fun _ h => by simp [(of_mem_brokenImageFindings h).1]),
    ofSeverity_of_forall_eq (fun _ h => (of_mem_silentImageFindings h).1),
    ofSeverity_of_forall_ne (fun _ h => by simp [(of_mem_brokenLinkFindings h).1])]
  simp

theorem criticalCount_of_review {markdown title : String} {limits : Limits} {forest : List Node}
    {assessment : Assessment} (h : review markdown title limits (.ok forest) = .ok assessment) :
    assessment.criticalCount
      =
    (brokenImageFindings markdown forest).length + (brokenLinkFindings markdown forest).length := by
  have hcritical := ofSeverity_critical_remarks markdown limits forest
  rw [← (review_eq_ok h).1] at hcritical
  rw [← List.length_append, ← hcritical]
  rfl

theorem warningCount_of_review {markdown title : String} {limits : Limits} {forest : List Node}
    {assessment : Assessment} (h : review markdown title limits (.ok forest) = .ok assessment) :
    assessment.warningCount
      =
    (titleFindings markdown forest).length + (silentImageFindings markdown forest).length := by
  have hwarning := ofSeverity_warning_remarks markdown limits forest
  rw [← (review_eq_ok h).1] at hwarning
  rw [← List.length_append, ← hwarning]
  rfl

/-! ### The findings and the numbers in the remarks -/

def voidImages (forest : List Node) : List Node :=
  (surface forest).filter fun node => node.kind = "image" ∧ Blank node.href ∧ Blank node.text

theorem voidImages_eq_filter_brokenImages (forest : List Node) :
    voidImages forest = (brokenImages forest).filter fun node => Blank node.text := by
  rw [brokenImages, List.filter_filter]
  apply List.filter_congr
  intro node _
  rw [Bool.eq_iff_iff]
  simp [and_comm, and_assoc]

theorem voidImages_eq_filter_silentImages (forest : List Node) :
    voidImages forest = (silentImages forest).filter fun node => Blank node.href := by
  rw [silentImages, List.filter_filter]
  apply List.filter_congr
  intro node _
  rw [Bool.eq_iff_iff]
  simp [and_left_comm]

/--
The findings of a document come in four blocks, whose lengths are all the numbers that the remarks of
the four rules mention.
-/
structure FindingsInBlocks (markdown : String) (limits : Limits) (forest : List Node)
    (assessment : Assessment) (titles broken silent dead : List Finding) : Prop where
  findings_eq : assessment.findings = titles ++ broken ++ silent ++ dead
  of_mem_titles : ∀ finding ∈ titles, finding.severity = .warning ∧ finding.category = "Multiple H1"
    ∧ finding.additionalInfo = s!"Total H1s: {titles.length}"
  of_mem_broken : ∀ finding ∈ broken,
    finding.severity = .critical ∧ finding.category = "Broken Image"
  of_mem_silent : ∀ finding ∈ silent,
    finding.severity = .warning ∧ finding.category = "Missing Alt Text"
  of_mem_dead : ∀ finding ∈ dead, finding.severity = .critical ∧ finding.category = "Broken Link"
  void_broken : ((voidImages forest).map (brokenImageFinding markdown)).Sublist broken
  void_silent : ((voidImages forest).map (missingAltFinding markdown)).Sublist silent
  criticalCount_eq : assessment.criticalCount = broken.length + dead.length
  length_findings :
    assessment.criticalCount + assessment.warningCount = assessment.findings.length
  success_eq_false : assessment.criticalCount ≠ 0 → assessment.success = false
  issues_eq :
    assessment.issues
      =
    (if topTitles forest = [] then ["No H1 heading found"] else [])
      ++ (if broken = [] then [] else [s!"{broken.length} image(s) with missing URLs"])
      ++ (if dead = [] then [] else [s!"{dead.length} link(s) with missing URLs"])
  warnings_eq :
    assessment.warnings
      =
    (if titles = [] then [] else [s!"Multiple H1 headings found ({titles.length})"])
      ++ (if silent = [] then [] else [s!"{silent.length} image(s) missing alt text"])
      ++ (externalImageRule (surfaceImages forest)).warnings
      ++ (longLineRule markdown limits).warnings
  checks_eq :
    assessment.checks
      =
    (if topTitles forest = [] then [⟨.fail, "No H1 heading (will use fallback title)"⟩]
      else if titles = [] then [⟨.pass, "Single H1 heading found"⟩]
      else [⟨.warn, s!"Multiple H1 headings ({titles.length}) - consider using only one"⟩])
      ++ (if broken ≠ [] then [⟨.fail, s!"{broken.length} broken image link(s)"⟩]
        else if surfaceImages forest = [] then [] else [⟨.pass, "All images have URLs"⟩])
      ++ (if silent ≠ [] then
          [⟨.warn, s!"{silent.length} image(s) missing alt text (accessibility concern)"⟩]
        else if surfaceImages forest = [] then [] else [⟨.pass, "All images have alt text"⟩])
      ++ (if dead ≠ [] then [⟨.fail, s!"{dead.length} broken link(s)"⟩]
        else if links forest = [] then [] else [⟨.pass, "All links have URLs"⟩])
      ++ (externalImageRule (surfaceImages forest)).checks
      ++ (longLineRule markdown limits).checks

/--
The findings of a document that was read are four blocks in the order of the rules, and within each in
the order of the document.
-/
theorem review_findings {markdown title : String} {limits : Limits} {forest : List Node}
    {assessment : Assessment} (h : review markdown title limits (.ok forest) = .ok assessment) :
    FindingsInBlocks markdown limits forest assessment (titleFindings markdown forest)
      (brokenImageFindings markdown forest) (silentImageFindings markdown forest)
      (brokenLinkFindings markdown forest) := by
  have hremarks := (review_eq_ok h).1
  have hcritical := criticalCount_of_review h
  have hwarning := warningCount_of_review h
  have hfindings := findings_remarks markdown limits forest
  rw [← hremarks] at hfindings
  exact {
    findings_eq := hfindings
    of_mem_titles := fun _ => of_mem_titleFindings
    of_mem_broken := fun _ => of_mem_brokenImageFindings
    of_mem_silent := fun _ => of_mem_silentImageFindings
    of_mem_dead := fun _ => of_mem_brokenLinkFindings
    void_broken := by
      rw [voidImages_eq_filter_brokenImages]
      exact List.filter_sublist.map _
    void_silent := by
      rw [voidImages_eq_filter_silentImages]
      exact List.filter_sublist.map _
    criticalCount_eq := hcritical
    length_findings := by
      rw [hcritical, hwarning, Assessment.findings, hfindings]
      simp only [List.length_append]
      omega
    success_eq_false := by
      intro hcount
      rw [Bool.eq_false_iff]
      intro hsuccess
      obtain ⟨-, hbroken, hdead⟩ := (success_iff_of_review h).mp hsuccess
      apply hcount
      rw [hcritical]
      simp [brokenImageFindings, brokenLinkFindings, hbroken, hdead]
    issues_eq := by
      rw [Assessment.issues, hremarks, issues_remarks, headingRule_eq, brokenImageRule_eq,
        brokenLinkRule_eq]
      rfl
    warnings_eq := by
      rw [Assessment.warnings, hremarks]
      simp [remarks, headingRule_eq, brokenImageRule_eq, missingAltRule_eq, brokenLinkRule_eq]
    checks_eq := by
      rw [Assessment.checks, hremarks]
      simp only [remarks, headingRule_eq, brokenImageRule_eq, missingAltRule_eq, brokenLinkRule_eq,
        checks_append] }

def faultyDocument : List Node :=
  [ { kind := "heading", depth := some 1, text := some "A" },
    { kind := "heading", depth := some 1, text := some "B" },
    { kind := "paragraph", children := [ { kind := "image", href := some " ", text := some "" } ] },
    { kind := "blockquote", children := [ { kind := "link", text := some "C" } ] } ]

theorem review_findings_faultyDocument :
    ∃ assessment, review "" "" {} (.ok faultyDocument) = .ok assessment
      ∧ assessment.criticalCount = 2 ∧ assessment.warningCount = 3
      ∧ FindingsInBlocks "" {} faultyDocument assessment (titleFindings "" faultyDocument)
        (brokenImageFindings "" faultyDocument) (silentImageFindings "" faultyDocument)
        (brokenLinkFindings "" faultyDocument) := by
  have h := review_of_levelsComparable "" "" {} faultyDocument (by decide) (by decide +kernel)
  exact ⟨_, h, by decide +kernel, by decide +kernel, review_findings h⟩

end MarkdownIntake.Review
