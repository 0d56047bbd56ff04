import MarkdownIntake.Proofs.Markdown.Line
import MarkdownIntake.Proofs.Markdown.TopHeading
import Mathlib.Data.List.GetD

/-!
This module contains the reading of a whole text with a number sign and a blank at the start of a line:
either a heading of the first level is at the top of its tree, or one of five reasons says why not.
-/

namespace MarkdownIntake.Markdown

open MarkdownIntake.Document MarkdownIntake.Text

/-- Why the sign after `above` starts no heading at the top of the tree. -/
inductive Overlooked (markdown : String) (above : List Char) (blank : Char) (below : List Char) :
    Prop where
  /-- A fence opens in a line above, and none of the lines after it closes it. -/
  | fence {earlier between : List Line} {opener : Line} {fence : FenceOpening}
    (hlines : documentLines (uniformText above) = earlier ++ opener :: between)
    (hindent : opener.indent < 4) (hopening : fenceOpening? opener.content = some fence)
    (hbetween : ∀ line ∈ between, line.indent < 4 → fence.closedBy line.content = false)
  /-- HTML starts in a line above, and neither that line nor one of those after it ends it. -/
  | html {earlier between : List Line} {opener : Line} {block : HtmlTag.Block}
    (hlines : documentLines (uniformText above) = earlier ++ opener :: between)
    (hindent : opener.indent < 4) (hopening : HtmlTag.blockAt? opener.content = some block)
    (hbetween : ∀ line ∈ opener :: between, block.endsAt line.content = false)
  | blank (hblank : blank ∉ [' ', '\t', '\n', '\r'])
  | table {head under : Line} {rest : List Line}
    (hlines : documentLines (uniformText ('#' :: blank :: below)) = head :: under :: rest)
    (hindent : under.indent < 4) (hhead : (tableHead? head.content under.content).isSome = true)
  /-- The text has a block in which no further ones are read. -/
  | nested {node : Node} (hnode : (maxNesting - 1, node) ∈ outline 0 (readDocument markdown))

/-! ### The document as a container -/

def documentContainer (text : List Char) : Container where
  lines := (documentLines (uniformText text)).toArray
  limit := (documentLines (uniformText text)).length

def documentProgress (text : List Char) : Progress :=
  reader maxNesting (documentContainer text) (documentContainer text).limit {}

theorem line_documentContainer (text : List Char) (index : Nat) :
    (documentContainer text).line index = (documentLines (uniformText text)).getD index .absent := by
  simp [documentContainer, Container.line, Array.getD_eq_getD_getElem?]

theorem line_mem_or_absent (text : List Char) (index : Nat) :
    (documentContainer text).line index ∈ documentLines (uniformText text)
      ∨ (documentContainer text).line index = .absent := by
  rw [line_documentContainer]
  by_cases hindex : index < (documentLines (uniformText text)).length
  . rw [List.getD_eq_getElem _ _ hindex]
    exact .inl (List.getElem_mem hindex)
  . rw [List.getD_eq_default _ _ (Nat.not_lt.mp hindex)]
    exact .inr rfl

theorem isOutside_documentContainer (text : List Char) (index : Nat) :
    (documentContainer text).isOutside ((documentContainer text).line index) = false := by
  have hindent : 0 ≤ ((documentContainer text).line index).indent := by
    rcases line_mem_or_absent text index with hmem | habsent
    . exact indent_nonneg hmem
    . rw [habsent]
      decide
  simp only [Container.isOutside, decide_eq_false_iff_not, Int.not_lt]
  exact hindent

theorem not_mem_line (text : List Char) (index : Nat) :
    '\n' ∉ ((documentContainer text).line index).content := by
  rcases line_mem_or_absent text index with hmem | habsent
  . exact not_mem_content hmem
  . rw [habsent]
    decide

theorem isCode_documentContainer (text : List Char) (line : Line) :
    (documentContainer text).isCode line = false ↔ line.indent < 4 := by
  simp [Container.isCode, Container.codeIndent, documentContainer]

/-! ### Marks of a document -/

theorem exists_documentMarks_eq (markdown : String) :
    ∃ f : Mark → Mark, documentMarks markdown = (documentProgress markdown.toList).marks.toList.map f
      ∧ ∀ mark, (f mark).kind = mark.kind ∧ (f mark).tag = mark.tag
        ∧ (f mark).nesting = mark.nesting := by
  refine ⟨_, rfl, fun mark => ?_⟩
  split <;> exact ⟨rfl, rfl, rfl⟩

theorem levelAfter_map {f : Mark → Mark} (h : ∀ mark, (f mark).nesting = mark.nesting) (level : Nat)
    (marks : List Mark) : levelAfter level (marks.map f) = levelAfter level marks := by
  rw [levelAfter, List.foldl_map]
  congr 1
  funext level mark
  simp [Mark.levelAfter, Mark.opensBlock, Mark.closesBlock, h]

theorem assemble_documentMarks (markdown : String) :
    assemble (documentMarks markdown) = .ok (readDocument markdown) := by
  obtain ⟨added, hsound, hmarks⟩ :=
    adds_reader maxNesting (documentContainer markdown.toList)
      (documentContainer markdown.toList).limit {}
  obtain ⟨f, hf, hsame⟩ := exists_documentMarks_eq markdown
  have hlevels : ∀ mark ∈ documentMarks markdown, mark.opensBlock = true → mark.HasLevel := by
    intro mark hmark hopen
    rw [hf, List.mem_map] at hmark
    obtain ⟨read, hread, rfl⟩ := hmark
    obtain ⟨hkind, htag, hnesting⟩ := hsame read
    have hadded : read ∈ added := by
      rw [documentProgress, hmarks] at hread
      simpa using hread
    have hlevel : read.HasLevel :=
      hsound.hasLevel read hadded (by rwa [Mark.opensBlock, hnesting] at hopen)
    simpa only [Mark.HasLevel, Mark.baseKind, Mark.headingLevel, hkind, htag] using hlevel
  obtain ⟨forest, hforest⟩ := exists_assemble hlevels
  rw [readDocument, hforest]

theorem exists_nested_of_tooDeep {markdown : String} (h : TooDeep (documentProgress markdown.toList)) :
    ∃ node, (maxNesting - 1, node) ∈ outline 0 (readDocument markdown) := by
  obtain ⟨start, ⟨rest, hrest⟩, hlevel⟩ := h
  obtain ⟨f, hf, hsame⟩ := exists_documentMarks_eq markdown
  rw [outline_of_assemble (assemble_documentMarks markdown), hf, ← hrest, List.map_append]
  apply exists_mem_blockEntries (by decide)
  rwa [levelAfter_map fun mark => (hsame mark).2.2]

theorem blockNode_firstLevel {opener : Mark} (hkind : opener.kind = "heading_open")
    (htag : opener.tag = "h1") (rest : List Mark) :
    (opener.blockNode rest).kind = "heading" ∧ (opener.blockNode rest).depth = some 1 := by
  have hbase : opener.baseKind = "heading" := by
    rw [Mark.baseKind, hkind]
    decide +kernel
  have hcontainer : opener.containerKind = "heading" := by
    rw [Mark.containerKind, hbase]
    decide
  have hlevel : opener.headingLevel.toOption = some 1 := by
    rw [Mark.headingLevel, htag]
    decide
  refine ⟨hcontainer, ?_⟩
  simp only [Mark.blockNode, hbase, hlevel]
  rfl

theorem exists_heading_of_hasTopHeading {markdown : String}
    (h : HasTopHeading (documentProgress markdown.toList).marks.toList) :
    ∃ top ∈ readDocument markdown, top.kind = "heading" ∧ top.depth = some 1 := by
  obtain ⟨before, text, after, hmarks, hlevel⟩ := h
  obtain ⟨f, hf, hsame⟩ := exists_documentMarks_eq markdown
  obtain ⟨hkind, htag, hnesting⟩ := hsame (opening "heading" s!"h{1}" "")
  rw [hmarks] at hf
  simp only [headingMarks, wrapped, List.append_assoc, List.cons_append, List.map_append,
    List.map_cons] at hf
  have hassemble := assemble_documentMarks markdown
  rw [hf] at hassemble
  have hbefore : levelAfter 0 (before.map f) = 0 := by
    rw [levelAfter_map fun mark => (hsame mark).2.2, hlevel]
  have hopen : (f (opening "heading" s!"h{1}" "")).opensBlock = true := by
    rw [Mark.opensBlock, hnesting]
    rfl
  obtain ⟨top, htop, hbare⟩ := exists_top_of_assemble hassemble hbefore hopen
  have hnode := blockNode_firstLevel hkind htag
  refine ⟨top, htop, ?_, ?_⟩
  . exact (congrArg Node.kind hbare).trans (hnode _).1
  . exact (congrArg Node.depth hbare).trans (hnode _).2

/-! ### A sign at the start of a line -/

section

variable {above : List Char} (habove : EndsLine above) {blank : Char}
  (hblank : blank ∈ [' ', '\t', '\n', '\r']) (below : List Char)
include habove

theorem lines_documentContainer (rest : List Char) :
    documentLines (uniformText (above ++ rest))
      =
    documentLines (uniformText above) ++ documentLines (uniformText rest) := by
  rw [uniformText_append habove, documentLines_append (endsLine_uniformText habove)]

theorem line_above (rest : List Char) {index : Nat}
    (hindex : index < (documentLines (uniformText above)).length) :
    (documentContainer (above ++ rest)).line index = (documentLines (uniformText above))[index] := by
  rw [line_documentContainer, lines_documentContainer habove, List.getD_append _ _ _ _ hindex,
    List.getD_eq_getElem _ _ hindex]

theorem line_below (rest : List Char) (index : Nat) :
    (documentContainer (above ++ rest)).line ((documentLines (uniformText above)).length + index)
      =
    (documentLines (uniformText rest)).getD index .absent := by
  rw [line_documentContainer, lines_documentContainer habove, List.getD_append_right _ _ _ _ (by omega),
    Nat.add_sub_cancel_left]

theorem Overlooked.of_openAt {markdown : String} {blank : Char} {below rest : List Char}
    (h : OpenAt (documentContainer (above ++ rest)) (documentLines (uniformText above)).length) :
    Overlooked markdown above blank below := by
  have hsplit {start : Nat} (hstart : start < (documentLines (uniformText above)).length) :
      documentLines (uniformText above)
        =
      (documentLines (uniformText above)).take start
        ++ (documentLines (uniformText above))[start]
          :: (documentLines (uniformText above)).drop (start + 1) := by
    rw [← List.drop_eq_getElem_cons hstart, List.take_append_drop]
  cases h with
  | @fence start fence hstart hfence hbetween =>
    rw [line_above habove rest hstart, Container.fenceStart?] at hfence
    split at hfence
    . cases hfence
    . next hcode =>
      rw [Bool.not_eq_true, isCode_documentContainer] at hcode
      refine .fence (hsplit hstart) hcode hfence fun line hline hindent => ?_
      obtain ⟨index, hindex, rfl⟩ := List.mem_drop_iff_getElem.mp hline
      have hclosed := hbetween (start + 1 + index) (by omega) (by omega)
      rw [line_above habove rest (by omega), isCode_documentContainer] at hclosed
      exact hclosed hindent
  | @html start block hstart hblock hbetween =>
    rw [line_above habove rest hstart, Container.htmlStart?] at hblock
    split at hblock
    . cases hblock
    . next hcode =>
      rw [Bool.not_eq_true, isCode_documentContainer] at hcode
      refine .html (hsplit hstart) hcode hblock fun line hline => ?_
      rw [← List.drop_eq_getElem_cons hstart] at hline
      obtain ⟨index, hindex, rfl⟩ := List.mem_drop_iff_getElem.mp hline
      have hends := hbetween (start + index) (by omega) (by omega)
      rwa [line_above habove rest (by omega)] at hends

theorem Overlooked.of_tableStart? {markdown : String} {blank : Char} {below : List Char}
    {head : List (List Char)}
    (h : (documentContainer (above ++ '#' :: blank :: below)).tableStart?
      (documentLines (uniformText above)).length
      (documentContainer (above ++ '#' :: blank :: below)).limit = some head) :
    Overlooked markdown above blank below := by
  have hline := line_below habove ('#' :: blank :: below)
  have hlimit : (documentContainer (above ++ '#' :: blank :: below)).limit
      = (documentLines (uniformText above)).length
        + (documentLines (uniformText ('#' :: blank :: below))).length := by
    simp [documentContainer, lines_documentContainer habove]
  unfold Container.tableStart? at h
  dsimp only at h
  split at h
  . next hstart =>
    simp only [Bool.and_eq_true, decide_eq_true_eq, Bool.not_eq_true', hlimit] at hstart
    obtain ⟨⟨⟨hbound, -⟩, hunder⟩, -⟩ := hstart
    rcases hlines : documentLines (uniformText ('#' :: blank :: below)) with _ | ⟨_, _ | ⟨under, rest⟩⟩
    . simp [hlines] at hbound
    . simp [hlines] at hbound
    . rw [hline, hlines, isCode_documentContainer] at hunder
      have hfirst := hline 0
      rw [Nat.add_zero] at hfirst
      rw [hfirst, hline, hlines] at h
      exact .table hlines hunder (Option.isSome_of_mem h)
  . cases h

include hblank

theorem exists_line_sign :
    ∃ text terminated,
      (documentContainer (above ++ '#' :: blank :: below)).line
          (documentLines (uniformText above)).length
        =
      .ofText ('#' :: text) terminated
        ∧ text.head?.all isIndent = true
        ∧ (documentLines (uniformText above)).length
            < (documentContainer (above ++ '#' :: blank :: below)).limit := by
  obtain ⟨text, terminated, rest, hlines, htext⟩ := exists_documentLines_sign hblank below
  refine ⟨text, terminated, ?_, htext, ?_⟩
  . have hline := line_below habove ('#' :: blank :: below) 0
    rwa [hlines] at hline
  . simp [documentContainer, lines_documentContainer habove, hlines]

/-- A sign that is not overlooked is read as a heading, unless the nesting goes too deep before it. -/
theorem hasTopHeading_or_tooDeep {markdown : String}
    (hnot : ¬ Overlooked markdown above blank below) :
    HasTopHeading (documentProgress (above ++ '#' :: blank :: below)).marks.toList
      ∨ TooDeep (documentProgress (above ++ '#' :: blank :: below)) := by
  obtain ⟨text, terminated, hline, htext, hlimit⟩ := exists_line_sign habove hblank below
  obtain ⟨heading, hheading, hlevel⟩ := level_headingLine?_sign htext
  have hcontent : (Line.ofText ('#' :: text) terminated).content = '#' :: text := rfl
  have hat : HeadingAt (documentContainer (above ++ '#' :: blank :: below)).lines
      (documentLines (uniformText above)).length := by
    refine ⟨?_, ?_, fun index _ => not_mem_line _ index⟩
    . change Line.indent (Container.line _ _) = 0
      rw [hline]
      rfl
    . change (headingLine? (Line.content (Container.line _ _))).isSome = true
      rw [hline, hcontent, hheading]
      rfl
  have htable : (documentContainer (above ++ '#' :: blank :: below)).tableStart?
      (documentLines (uniformText above)).length
      (documentContainer (above ++ '#' :: blank :: below)).limit = none := by
    cases hstart : Container.tableStart? _ _ _ with
    | none => rfl
    | some head => exact absurd (.of_tableStart? habove hstart) hnot
  exact hasTopHeading_readBlocks hat (by rw [hline, hcontent, hheading]) hlevel htable
    (isOutside_documentContainer _) hlimit (fun hopen => hnot (.of_openAt habove hopen))
    (stays_reader 19) (stays_reader 18) (adds_reader 19) (adds_reader 18) (by decide) (by decide) rfl
    (Nat.zero_le _)

end

theorem overlooked_of_forall_ne {markdown : String}
    (h : ∀ top ∈ readDocument markdown, top.kind = "heading" → top.depth ≠ some 1)
    {above below : List Char} {blank : Char} (htext : markdown.toList = above ++ '#' :: blank :: below)
    (habove : EndsLine above) : Overlooked markdown above blank below := by
  by_contra hnot
  by_cases hblank : blank ∈ [' ', '\t', '\n', '\r']
  . rcases hasTopHeading_or_tooDeep habove hblank below hnot with hheading | hdeep
    . rw [← htext] at hheading
      obtain ⟨top, htop, hkind, hdepth⟩ := exists_heading_of_hasTopHeading hheading
      exact h top htop hkind hdepth
    . rw [← htext] at hdeep
      obtain ⟨node, hnode⟩ := exists_nested_of_tooDeep hdeep
      exact hnot (.nested hnode)
  . exact hnot (.blank hblank)

end MarkdownIntake.Markdown
