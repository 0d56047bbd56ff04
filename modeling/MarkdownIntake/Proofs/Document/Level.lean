import MarkdownIntake.Proofs.Document.Balance
import MarkdownIntake.Proofs.Document.Label
import MarkdownIntake.Proofs.Document.Walk
import MarkdownIntake.Proofs.Number.Literal

/-!
This module contains where headings get their levels from. A stream can be assembled just if each mark
that opens a heading has a level. The other two ways into a tree give no level: a leaf in a stream of
blocks, and a container in a line of text.
-/

namespace MarkdownIntake.Document

open MarkdownIntake.Number

/-! ### Marks that open a heading -/

theorem Mark.headingLevel_eq_ok_iff {mark : Mark} {level : Int} :
    mark.headingLevel = .ok level ↔ DenotesInteger (mark.tag.toList.drop 1) level := by
  rw [headingLevel, readInteger_eq_ok_iff, String.toList_ofList]

theorem Mark.hasLevel_iff {mark : Mark} :
    mark.HasLevel
      ↔
    (mark.baseKind = "heading" → ∃ level, DenotesInteger (mark.tag.toList.drop 1) level) := by
  simp only [HasLevel, headingLevel_eq_ok_iff]

theorem Blocks.hasLevel_of_step {blocks next : Blocks} {mark : Mark} (h : blocks.step mark = .ok next)
    (hopen : mark.opensBlock = true) : mark.HasLevel := by
  intro hbase
  cases hlevel : mark.headingLevel with
  | ok level => exact ⟨level, rfl⟩
  | error error =>
    simp [step, hopen, Mark.containerNode, hbase, hlevel, bind, Except.bind] at h

theorem Blocks.hasLevel_of_foldlM_step {marks : List Mark} {blocks final : Blocks}
    (h : marks.foldlM step blocks = .ok final) :
    ∀ mark ∈ marks, mark.opensBlock = true → mark.HasLevel := by
  induction marks generalizing blocks with
  | nil => exact nofun
  | cons mark rest ih =>
    rw [List.foldlM_cons] at h
    cases hstep : blocks.step mark with
    | error error => simp [hstep, bind, Except.bind] at h
    | ok next =>
      rw [hstep] at h
      exact List.forall_mem_cons.mpr ⟨hasLevel_of_step hstep, ih h⟩

theorem hasLevel_of_assemble {marks : List Mark} {forest : List Node}
    (h : assemble marks = .ok forest) : ∀ mark ∈ marks, mark.opensBlock = true → mark.HasLevel := by
  unfold assemble at h
  cases hrun : marks.foldlM Blocks.step {} with
  | error error => simp [hrun, Except.map] at h
  | ok final => exact Blocks.hasLevel_of_foldlM_step hrun

theorem exists_assemble_eq_error_iff {marks : List Mark} :
    (∃ error, assemble marks = .error error)
      ↔
    ∃ mark ∈ marks, mark.nesting = 1 ∧ mark.baseKind = "heading"
      ∧ ¬ ∃ level, DenotesInteger (mark.tag.toList.drop 1) level := by
  have hlevels : (∃ forest, assemble marks = .ok forest)
      ↔ ∀ mark ∈ marks, mark.opensBlock = true → mark.HasLevel :=
    ⟨fun ⟨_, h⟩ => hasLevel_of_assemble h, exists_assemble⟩
  have herror : (∃ error, assemble marks = .error error)
      ↔ ¬ ∃ forest, assemble marks = .ok forest := by
    cases assemble marks <;> simp
  rw [herror, hlevels]
  simp only [Mark.hasLevel_iff, Mark.opensBlock, beq_iff_eq, not_forall, exists_prop]

/-! ### Levels in the tree -/

theorem Mark.containerKind_eq_heading_iff {mark : Mark} :
    mark.containerKind = "heading" ↔ mark.baseKind = "heading" := by
  have hnames : ∀ name ∈ containerNames, name.2 = "heading" → name.1 = "heading" := by decide
  rw [containerKind]
  constructor
  . intro h
    cases hlookup : containerNames.lookup mark.baseKind with
    | none => simpa [hlookup] using h
    | some kind =>
      obtain ⟨before, after, heq, -⟩ := List.lookup_eq_some_iff.mp hlookup
      rw [hlookup, Option.getD_some] at h
      exact hnames (mark.baseKind, kind) (by rw [heq]; simp) h
  . intro h
    rw [h]
    rfl

/-- A mark names headings only to open or close them, and none in a line of text. -/
structure Mark.HeadingsOpen (mark : Mark) : Prop where
  block : mark.kind = "heading" → mark.nesting = 1 ∨ mark.nesting = -1
  line : mark.kind = "inline" → mark.nesting ≠ 1 → mark.nesting ≠ -1 →
    ∀ child ∈ mark.children, child.nesting = 1 → child.baseKind ≠ "heading"

instance (mark : Mark) : Decidable mark.HeadingsOpen :=
  decidable_of_iff ((mark.kind = "heading" → mark.nesting = 1 ∨ mark.nesting = -1)
      ∧ (mark.kind = "inline" → mark.nesting ≠ 1 → mark.nesting ≠ -1 →
        ∀ child ∈ mark.children, child.nesting = 1 → child.baseKind ≠ "heading"))
    ⟨fun h => ⟨h.1, h.2⟩, fun h => ⟨h.block, h.line⟩⟩

theorem Mark.kind_inlineNode_ne_heading {mark : Mark}
    (h : mark.nesting = 1 → mark.baseKind ≠ "heading") (rest : List Mark) :
    (mark.inlineNode rest).kind ≠ "heading" := by
  unfold inlineNode
  split
  . next hopen =>
    rw [opensInline_iff] at hopen
    unfold spanNode
    split
    . exact (by decide : "link" ≠ "heading")
    . next hlink =>
      have hnesting := hopen.resolve_left (by simpa using hlink)
      exact mt containerKind_eq_heading_iff.mp (h hnesting)
  . unfold inlineLeaf
    repeat' split
    all_goals simp

theorem kind_ne_heading_of_mem_inlineEntries {marks : List Mark}
    (h : ∀ mark ∈ marks, mark.nesting = 1 → mark.baseKind ≠ "heading") {level inner : Nat}
    {entry : Nat × Node} (hentry : entry ∈ inlineEntries level inner marks) :
    entry.2.kind ≠ "heading" := by
  induction marks generalizing inner with
  | nil => exact absurd hentry List.not_mem_nil
  | cons mark rest ih =>
    obtain ⟨hmark, hrest⟩ := List.forall_mem_cons.mp h
    rw [inlineEntries] at hentry
    split at hentry
    . exact ih hrest hentry
    . rcases List.mem_cons.mp hentry with rfl | hentry
      . exact mark.kind_inlineNode_ne_heading hmark rest
      . exact ih hrest hentry

theorem Mark.depth_blockNode {mark : Mark} (h : mark.HasLevel) {rest : List Mark}
    (hkind : (mark.blockNode rest).kind = "heading") :
    ∃ depth, (mark.blockNode rest).depth = some depth := by
  have hbase : mark.baseKind = "heading" := containerKind_eq_heading_iff.mp hkind
  obtain ⟨level, hlevel⟩ := h hbase
  exact ⟨level, by simp [blockNode, hbase, hlevel, Except.toOption]⟩

theorem Mark.kind_leafNode_eq_heading {mark : Mark} (h : mark.leafNode.kind = "heading") :
    mark.kind = "heading" := by
  unfold leafNode at h
  repeat' split at h
  all_goals simp_all

theorem depth_of_mem_blockEntries {marks : List Mark}
    (hlevels : ∀ mark ∈ marks, mark.opensBlock = true → mark.HasLevel)
    (hopen : ∀ mark ∈ marks, mark.HeadingsOpen) {level : Nat} {entry : Nat × Node}
    (hentry : entry ∈ blockEntries level marks) (hkind : entry.2.kind = "heading") :
    ∃ depth, entry.2.depth = some depth := by
  induction marks generalizing level with
  | nil => exact absurd hentry List.not_mem_nil
  | cons mark rest ih =>
    obtain ⟨hlevel, hlevels⟩ := List.forall_mem_cons.mp hlevels
    obtain ⟨hmark, hopen⟩ := List.forall_mem_cons.mp hopen
    rw [blockEntries] at hentry
    split at hentry
    . next hopens =>
      rcases List.mem_cons.mp hentry with rfl | hentry
      . exact Mark.depth_blockNode (hlevel hopens) hkind
      . exact ih hlevels hopen hentry
    . next hopens =>
      split at hentry
      . exact ih hlevels hopen hentry
      . next hcloses =>
        rw [Mark.opensBlock, beq_iff_eq] at hopens
        rw [Mark.closesBlock, beq_iff_eq] at hcloses
        split at hentry
        . next hinline =>
          rcases List.mem_append.mp hentry with hentry | hentry
          . have hline := hmark.line (by simpa using hinline) hopens hcloses
            exact absurd hkind (kind_ne_heading_of_mem_inlineEntries hline hentry)
          . exact ih hlevels hopen hentry
        . rcases List.mem_cons.mp hentry with rfl | hentry
          . exact absurd (hmark.block (Mark.kind_leafNode_eq_heading hkind)) (by simp [hopens, hcloses])
          . exact ih hlevels hopen hentry

theorem depth_of_inside {marks : List Mark} {forest : List Node} (h : assemble marks = .ok forest)
    (hopen : ∀ mark ∈ marks, mark.HeadingsOpen) {node : Node} (hinside : Inside node forest)
    (hkind : node.kind = "heading") : ∃ depth, node.depth = some depth := by
  have hbare := List.mem_map_of_mem (f := Node.bare) (mem_walk_iff_inside.mpr hinside)
  rw [← map_outline 0, outline_of_assemble h, List.mem_map] at hbare
  obtain ⟨entry, hentry, heq⟩ := hbare
  have hdepth := depth_of_mem_blockEntries (hasLevel_of_assemble h) hopen hentry
  rw [heq] at hdepth
  exact hdepth hkind

/-! ### Levels that can be told -/

theorem Mark.depth_inlineNode (mark : Mark) (rest : List Mark) : (mark.inlineNode rest).depth = none := by
  unfold inlineNode spanNode inlineLeaf
  repeat' split
  all_goals rfl

theorem depth_of_mem_inlineEntries {marks : List Mark} {level inner : Nat} {entry : Nat × Node}
    (hentry : entry ∈ inlineEntries level inner marks) : entry.2.depth = none := by
  induction marks generalizing inner with
  | nil => exact absurd hentry List.not_mem_nil
  | cons mark rest ih =>
    rw [inlineEntries] at hentry
    split at hentry
    . exact ih hentry
    . rcases List.mem_cons.mp hentry with rfl | hentry
      . exact mark.depth_inlineNode rest
      . exact ih hentry

theorem Mark.headingLevel_of_depth_blockNode {mark : Mark} {rest : List Mark} {depth : Int}
    (h : (mark.blockNode rest).depth = some depth) : mark.headingLevel = .ok depth := by
  rw [blockNode, Option.ite_none_right_eq_some] at h
  cases hlevel : mark.headingLevel with
  | error error => simp [hlevel, Except.toOption] at h
  | ok level => simpa [hlevel, Except.toOption] using h.2

theorem Mark.depth_leafNode (mark : Mark) : mark.leafNode.depth = none := by
  unfold leafNode
  repeat' split
  all_goals rfl

theorem exists_headingLevel_of_mem_blockEntries {marks : List Mark} {level : Nat} {entry : Nat × Node}
    {depth : Int} (hentry : entry ∈ blockEntries level marks) (hdepth : entry.2.depth = some depth) :
    ∃ mark ∈ marks, mark.headingLevel = .ok depth := by
  induction marks generalizing level with
  | nil => exact absurd hentry List.not_mem_nil
  | cons mark rest ih =>
    have hlater {level : Nat} (hentry : entry ∈ blockEntries level rest) :
        ∃ other ∈ mark :: rest, other.headingLevel = .ok depth := by
      obtain ⟨other, hother, hlevel⟩ := ih hentry
      exact ⟨other, List.mem_cons_of_mem _ hother, hlevel⟩
    rw [blockEntries] at hentry
    split at hentry
    . rcases List.mem_cons.mp hentry with rfl | hentry
      . exact ⟨mark, List.mem_cons_self, Mark.headingLevel_of_depth_blockNode hdepth⟩
      . exact hlater hentry
    . split at hentry
      . exact hlater hentry
      . split at hentry
        . rcases List.mem_append.mp hentry with hentry | hentry
          . rw [depth_of_mem_inlineEntries hentry] at hdepth
            cases hdepth
          . exact hlater hentry
        . rcases List.mem_cons.mp hentry with rfl | hentry
          . rw [mark.depth_leafNode] at hdepth
            cases hdepth
          . exact hlater hentry

theorem isTellable_depth_of_inside {marks : List Mark} {forest : List Node}
    (h : assemble marks = .ok forest) {node : Node} (hinside : Inside node forest) {depth : Int}
    (hdepth : node.depth = some depth) : isTellable depth = true := by
  have hbare := List.mem_map_of_mem (f := Node.bare) (mem_walk_iff_inside.mpr hinside)
  rw [← map_outline 0, outline_of_assemble h, List.mem_map] at hbare
  obtain ⟨entry, hentry, heq⟩ := hbare
  obtain ⟨mark, -, hlevel⟩ := exists_headingLevel_of_mem_blockEntries hentry
    ((congrArg Node.depth heq).trans hdepth)
  exact (Mark.headingLevel_eq_ok_iff.mp hlevel).isTellable

end MarkdownIntake.Document
