import MarkdownIntake.Markdown.Reading
import MarkdownIntake.Proofs.Document.Level
import MarkdownIntake.Proofs.Review.Census
import MarkdownIntake.Proofs.Review.Limits
import MarkdownIntake.Review.Report

/-!
This module contains that the levels of headings can be put in order for every document that is
assembled from a stream that names headings only where they open and close, and that a report can tell them
for every document that is assembled at all.
-/

namespace MarkdownIntake.Review

open MarkdownIntake.Document MarkdownIntake.Number

theorem levelsComparable_of_depths {forest : List Node}
    (h : ∀ node ∈ forest, node.kind = "heading" → ∃ depth, node.depth = some depth) :
    levelsComparable (census forest).headingLevels = true := by
  rw [levelsComparable, Bool.or_eq_true, List.all_eq_true]
  refine .inr fun entry hentry => ?_
  have hlevel : entry.1 ∈ (topHeadings forest).map (·.depth) :=
    ((tallies_headingLevels (topHeadings forest)).mem_iff entry.1).mp (List.mem_map_of_mem hentry)
  obtain ⟨node, hnode, hkind, hdepth⟩ := mem_map_depth_topHeadings_iff.mp hlevel
  obtain ⟨depth, hsome⟩ := h node hnode hkind
  rw [← hdepth, hsome, Option.isSome_some]

section

variable {markdown title : String} {limits : Limits} {forest : List Node}
  (hlevels : levelsComparable (census forest).headingLevels = true)
include hlevels

theorem review_ne_levelsNotComparable :
    review markdown title limits (.ok forest) ≠ .error .levelsNotComparable := by
  cases htell : canTellLongLines markdown limits <;> simp [review, hlevels, htell]

end

def writtenLevels : List Mark :=
  [ { kind := "heading_close", nesting := -1 },
    { kind := "heading_open", tag := "h3", nesting := 1 },
    { kind := "inline", content := "a", children := [ { kind := "link_open", nesting := 1 } ] },
    { kind := "heading_close", nesting := -1 },
    { kind := "td_open", nesting := 1 },
    { kind := "heading_open", tag := "h 1_0 ", nesting := 1 } ]

def writtenTree : List Node :=
  [ { kind := "heading", depth := some 3, text := some "a", children := [ { kind := "link" } ] },
    { kind := "table_cell", children := [ { kind := "heading", depth := some 10 } ] } ]

/-! ### Levels that are told -/

theorem Census.hasTellableLevels_iff {σ : Type} {census : Census σ} :
    census.hasTellableLevels = true
      ↔
    ∀ level count, (some level, count) ∈ census.headingLevels → isTellable level = true := by
  rw [hasTellableLevels, List.all_eq_true]
  constructor
  . intro h level count hentry
    have htell := h (some level, count) hentry
    rwa [Option.all_some] at htell
  . rintro h ⟨_ | level, count⟩ hentry
    . rfl
    . rw [Option.all_some]
      exact h level count hentry

theorem exists_told_iff {σ : Type} {assessment : Assessment σ} {text : String} :
    (∃ told, assessment.told text = .ok told)
      ↔
    ∀ census, assessment.census = some census → census.hasTellableLevels = true := by
  have hall : assessment.census.all Census.hasTellableLevels = true
      ↔ ∀ census, assessment.census = some census → census.hasTellableLevels = true := by
    cases assessment.census <;> simp
  rw [← hall, Assessment.told]
  cases assessment.census.all Census.hasTellableLevels <;> simp

theorem exists_report_iff {assessment : Assessment} {format : ReportFormat} {verbose : Bool} :
    (∃ text, report assessment format verbose = .ok text)
      ↔
    ∀ census, assessment.census = some census → census.hasTellableLevels = true := by
  cases format with
  | text => exact exists_told_iff
  | json => exact exists_told_iff

theorem exists_report_of_assemble {marks : List Mark} {markdown title : String} {limits : Limits}
    {forest : List Node} {assessment : Assessment} (h : assemble marks = .ok forest)
    (hreview : review markdown title limits (.ok forest) = .ok assessment) (format : ReportFormat)
    (verbose : Bool) : ∃ text, report assessment format verbose = .ok text := by
  rw [exists_report_iff, ← assessment_of_review hreview]
  rintro _ ⟨⟩
  rw [Census.hasTellableLevels_iff]
  intro level count hentry
  have hlevel : some level ∈ (topHeadings forest).map (·.depth) :=
    ((tallies_headingLevels (topHeadings forest)).mem_iff (some level)).mp (List.mem_map_of_mem hentry)
  obtain ⟨node, hnode, -, hdepth⟩ := mem_map_depth_topHeadings_iff.mp hlevel
  exact isTellable_depth_of_inside h (.top hnode) hdepth

theorem exists_assemble_eq_readDocument (markdown : String) :
    ∃ marks, assemble marks = .ok (Markdown.readDocument markdown) := by
  unfold Markdown.readDocument
  split
  . next forest h => exact ⟨_, h⟩
  . exact ⟨[], rfl⟩

/-! ### Levels that are too long -/

def zerosMark (count : Nat) : Mark :=
  { kind := "heading_open", tag := String.ofList ('h' :: List.replicate count '0'), nesting := 1 }

theorem drop_tag_zerosMark (count : Nat) :
    (zerosMark count).tag.toList.drop 1 = List.replicate count '0' := by
  rw [zerosMark, String.toList_ofList, List.drop_one, List.tail_cons]

theorem baseKind_zerosMark (count : Nat) : (zerosMark count).baseKind = "heading" := by
  have hending : Mark.withoutEnding? "heading_open" "_open" = some "heading" := by decide +kernel
  rw [Mark.baseKind, zerosMark, hending, Option.getD_some]

theorem digitRun_zeros (n : Nat) :
    DigitRun (List.replicate (n + 1) '0') (List.replicate (n + 1) 0) := by
  induction n with
  | zero => exact .last (by decide)
  | succ n ih => exact .next (by decide) ih

theorem integerLiteral_zeros (n : Nat) :
    IntegerLiteral (List.replicate (n + 1) '0') false (List.replicate (n + 1) 0) := by
  have h : IntegerLiteral ([] ++ ([] ++ List.replicate (n + 1) '0') ++ []) false
      (List.replicate (n + 1) 0) := .padded nofun .none (digitRun_zeros n) nofun
  rwa [List.append_nil, List.nil_append, List.nil_append] at h

theorem assemble_zerosMark {n : Nat} (h : maxDigits ≤ n) :
    assemble [zerosMark (n + 1)] = .error (.tooManyDigits (n + 1)) := by
  have hliteral := integerLiteral_zeros n
  rw [← drop_tag_zerosMark, ← String.toList_ofList (l := (zerosMark (n + 1)).tag.toList.drop 1)]
    at hliteral
  have hlevel : (zerosMark (n + 1)).headingLevel = .error (.tooManyDigits (n + 1)) := by
    rw [Mark.headingLevel, readInteger_of_integerLiteral hliteral, List.length_replicate,
      if_pos (Nat.lt_succ_of_le h)]
  have hopen : (zerosMark (n + 1)).opensBlock = true := rfl
  simp [assemble, Blocks.step, hopen, Mark.containerNode, baseKind_zerosMark, hlevel, Except.map,
    bind, Except.bind]

def untellableLimits : Limits where
  maxLineLength := -leastUntellable
  longLineLimit := 0

theorem untellableEntry_untellableLimits : UntellableEntry untellableLimits "x" := by
  have hbound : untellableLimits.maxLineLength < 1 :=
    Int.lt_of_le_of_lt (Int.neg_nonpos_of_nonneg (Int.natCast_nonneg leastUntellable)) (by decide)
  have hlines : "x".toList.splitOn '\n' = [['x']] := by decide
  refine ⟨Int.le_refl _, ?_⟩
  rw [TooManyLongLines, hlines, List.countP_cons_of_pos (by simpa using hbound)]
  decide

end MarkdownIntake.Review
