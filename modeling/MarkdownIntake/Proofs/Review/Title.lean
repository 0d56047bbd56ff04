import MarkdownIntake.Proofs.Document.Title
import MarkdownIntake.Proofs.Markdown.Overlooked
import MarkdownIntake.Review.Rule

/-!
This module contains how the title of a document and the review of its headings agree. The title is
found in the text and the headings in the tree, so a line may have a title and be no heading.
-/

namespace MarkdownIntake.Review

open MarkdownIntake.Document MarkdownIntake.Markdown

def fallbackCheck : Check :=
  ⟨.fail, "No H1 heading (will use fallback title)"⟩

theorem checks_headingRule {markdown : String} {forest : List Node} (h : firstLevelHeadings forest = []) :
    (headingRule markdown forest).checks = [fallbackCheck] := by
  simp [headingRule, h, fallbackCheck]

theorem depth_ne_of_firstLevelHeadings {forest : List Node} (h : firstLevelHeadings forest = []) :
    ∀ top ∈ forest, top.kind = "heading" → top.depth ≠ some 1 := by
  intro top htop hkind hdepth
  have hmem : top ∈ firstLevelHeadings forest := by
    simp [firstLevelHeadings, topHeadings, Node.is, htop, hkind, hdepth]
  rw [h] at hmem
  cases hmem

/--
Where the tree has no heading of the first level, the review says that no title will be found. That is
so exactly if no line has a title, and each line that has one is overlooked by the reading of the tree.
-/
theorem title_of_no_firstLevelHeadings {markdown : String}
    (h : firstLevelHeadings (readDocument markdown) = []) :
    (headingRule markdown (readDocument markdown)).checks = [fallbackCheck]
      ∧ ((∀ fallback, title markdown fallback = fallback)
          ↔ ∀ above blank below, ¬ TitleLine markdown above blank below)
      ∧ ∀ above blank below, TitleLine markdown above blank below →
          Overlooked markdown above blank below := by
  refine ⟨checks_headingRule h, title_eq_fallback_iff_forall markdown, ?_⟩
  intro above blank below hline
  exact overlooked_of_forall_ne (depth_ne_of_firstLevelHeadings h) hline.text hline.above

def signInCode : String := "```\n# foo\n```\n"

theorem firstLevelHeadings_signInCode : firstLevelHeadings (readDocument signInCode) = [] := by
  decide +kernel

theorem title_of_no_firstLevelHeadings_signInCode :
    firstLevelHeadings (readDocument signInCode) = []
      ∧ (headingRule signInCode (readDocument signInCode)).checks = [fallbackCheck]
      ∧ TitleLine signInCode "```\n".toList ' ' "foo\n```\n".toList
      ∧ Overlooked signInCode "```\n".toList ' ' "foo\n```\n".toList := by
  have hheadings := firstLevelHeadings_signInCode
  have hline : TitleLine signInCode "```\n".toList ' ' "foo\n```\n".toList :=
    ⟨by decide, .inr (by decide), by decide, by decide⟩
  obtain ⟨hchecks, -, hlines⟩ := title_of_no_firstLevelHeadings hheadings
  exact ⟨hheadings, hchecks, hline, hlines _ _ _ hline⟩

theorem title_found_where_fallback_announced :
    firstLevelHeadings (readDocument signInCode) = []
      ∧ (headingRule signInCode (readDocument signInCode)).checks = [fallbackCheck]
      ∧ title signInCode defaultTitle = "foo" ∧ defaultTitle ≠ "foo" := by
  refine ⟨firstLevelHeadings_signInCode, checks_headingRule firstLevelHeadings_signInCode, ?_, ?_⟩
  . decide
  . decide

end MarkdownIntake.Review
