import MarkdownIntake.Proofs.Review.Remarks

/-!
This module contains when a document passes its review: it has a heading of the first level at the top,
and no image on its surface and no link at any depth lacks an address.
-/

namespace MarkdownIntake.Review

open MarkdownIntake.Document

theorem success_iff_of_review {markdown title : String} {limits : Limits} {forest : List Node}
    {assessment : Assessment} (h : review markdown title limits (.ok forest) = .ok assessment) :
    assessment.success = true
      ↔
    topTitles forest ≠ [] ∧ brokenImages forest = [] ∧ brokenLinks forest = [] := by
  rw [(review_eq_ok h).2, List.isEmpty_iff, issues_remarks_eq_nil_iff]

theorem review_error (markdown title : String) (limits : Limits) (reason : String) :
    ∃ assessment, review markdown title limits (.error reason) = .ok assessment
      ∧ assessment.success = false
      ∧ assessment.remarks = { issues := [parseFailure] }
      ∧ assessment.census = none :=
  ⟨_, rfl, rfl, rfl, rfl⟩

theorem success_iff_issues_eq_nil {markdown title : String} {limits : Limits}
    {reading : Except String (List Node)} {assessment : Assessment}
    (h : review markdown title limits reading = .ok assessment) :
    assessment.success = true ↔ assessment.issues = [] := by
  cases reading with
  | error reason =>
    obtain ⟨failed, hfailed, hsuccess, hremarks, -⟩ := review_error markdown title limits reason
    rw [hfailed, Except.ok.injEq] at h
    simp [← h, hsuccess, Assessment.issues, hremarks]
  | ok forest =>
    obtain ⟨hremarks, hsuccess⟩ := review_eq_ok h
    simp [hsuccess, Assessment.issues, hremarks]

/--
What decides a review. A document that was read passes exactly if it has a heading of the first level
at the top, an address for each image on its surface and one for each link inside it; one that could
not be read fails with nothing but a single issue. Either way it passes exactly if it has no issue.
-/
theorem review_verdict (markdown title : String) (limits : Limits) :
    (∀ forest assessment, review markdown title limits (.ok forest) = .ok assessment →
      (assessment.success = true
        ↔
      (∃ node ∈ forest, node.kind = "heading" ∧ node.depth = some 1)
        ∧ (∀ node, OnSurface node forest → node.kind = "image" → ¬ Blank node.href)
        ∧ ∀ node, Inside node forest → node.kind = "link" → ¬ Blank node.href))
      ∧ (∀ reason, ∃ assessment, review markdown title limits (.error reason) = .ok assessment
        ∧ assessment.success = false ∧ assessment.issues = [parseFailure]
        ∧ assessment.warnings = [] ∧ assessment.findings = [] ∧ assessment.census = none
        ∧ assessment.checks = [])
      ∧ ∀ reading assessment, review markdown title limits reading = .ok assessment →
        (assessment.success = true ↔ assessment.issues = []) := by
  refine ⟨?_, ?_, ?_⟩
  . intro forest assessment h
    rw [success_iff_of_review h, Ne, topTitles_eq_nil_iff, Classical.not_not, brokenImages_eq_nil_iff,
      brokenLinks_eq_nil_iff]
  . intro reason
    obtain ⟨assessment, h, hsuccess, hremarks, hcensus⟩ :=
      review_error markdown title limits reason
    refine ⟨assessment, h, hsuccess, ?_⟩
    simp [Assessment.issues, Assessment.warnings, Assessment.findings, Assessment.checks, hremarks,
      hcensus]
  . intro reading assessment h
    exact success_iff_issues_eq_nil h

def nestedLinks : List Node :=
  [ { kind := "heading", depth := some 1, text := some "T" },
    { kind := "blockquote", children :=
      [ { kind := "link", href := some "x", children := [ { kind := "link", href := some " " } ] } ] } ]

theorem review_verdict_nestedLinks :
    ∃ assessment, review "" "" {} (.ok nestedLinks) = .ok assessment
      ∧ assessment.success = false
      ∧ (assessment.success = true
        ↔
      (∃ node ∈ nestedLinks, node.kind = "heading" ∧ node.depth = some 1)
        ∧ (∀ node, OnSurface node nestedLinks → node.kind = "image" → ¬ Blank node.href)
        ∧ ∀ node, Inside node nestedLinks → node.kind = "link" → ¬ Blank node.href) := by
  have h := review_of_levelsComparable "" "" {} nestedLinks (by decide) (by decide +kernel)
  exact ⟨_, h, by decide +kernel, (review_verdict "" "" {}).1 nestedLinks _ h⟩

end MarkdownIntake.Review
