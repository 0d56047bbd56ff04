import MarkdownIntake.Document.Assembly
import MarkdownIntake.Proofs.Document.Outline

/-!
This module contains the outline of the tree that a stream of marks is assembled into. It can be read
off the stream directly: each mark that does not close a container yields one entry, at the level given
by the number of containers open at that point.

The text of a container is only known at a later mark, so the open containers are compared with what
they are going to be: a step on the marks to come leaves the foreseen containers as they are.
-/

namespace MarkdownIntake.Document

open MarkdownIntake.Number

/-! ### Lines of text -/

/--
The marks up to the one that closes a container with `inner` more containers open inside it; `none`
if it is never closed.
-/
def closedRun? : (inner : Nat) → List Mark → Option (List Mark)
  | _, [] => none
  | inner, mark :: rest =>
    if mark.opensInline then
      (closedRun? (inner + 1) rest).map (mark :: ·)
    else if mark.closesInline then
      match inner with
      | 0 => some []
      | inner + 1 => (closedRun? inner rest).map (mark :: ·)
    else
      (closedRun? inner rest).map (mark :: ·)

def Mark.inlineNode (mark : Mark) (rest : List Mark) : Node :=
  if mark.opensInline then
    let node := mark.spanNode
    { node with text := if node.is "link" then (closedRun? 0 rest).map inlineSource else none }
  else
    mark.inlineLeaf

def inlineEntries (level : Nat) : (inner : Nat) → List Mark → List (Nat × Node)
  | _, [] => []
  | inner, mark :: rest =>
    if mark.closesInline then
      inlineEntries level (inner - 1) rest
    else
      (level + inner, mark.inlineNode rest)
        :: inlineEntries level (if mark.opensInline then inner + 1 else inner) rest

def Mark.inlineLevelAfter (level : Nat) (mark : Mark) : Nat :=
  if mark.opensInline then level + 1 else if mark.closesInline then level - 1 else level

theorem Mark.closesInline_eq_false {mark : Mark} (h : mark.opensInline = true) :
    mark.closesInline = false := by
  simp [opensInline, closesInline] at *
  intro hkind
  simp [h.resolve_left hkind]

@[simp]
theorem Mark.children_spanNode (mark : Mark) : mark.spanNode.children = [] := by
  unfold spanNode
  split <;> rfl

@[simp]
theorem Mark.children_inlineLeaf (mark : Mark) : mark.inlineLeaf.children = [] := by
  unfold inlineLeaf
  repeat' split
  all_goals rfl

@[simp]
theorem Mark.children_inlineNode (mark : Mark) (rest : List Mark) :
    (mark.inlineNode rest).children = [] := by
  unfold inlineNode
  split <;> simp

namespace Spans

/--
The open containers with the labels that the marks to come give them. A container with `inner` more
containers open inside it has `run` and then `read` inside it so far.
-/
def foreseenOpened (rest : List Mark) :
    (inner : Nat) → (read : List Mark) → List (Node × List Mark) → List (Node × Unit)
  | _, _, [] => []
  | inner, read, (node, run) :: outer =>
    let label := (closedRun? inner rest).map fun tail => inlineSource (run ++ read ++ tail)
    (if node.is "link" then { node with text := label.or node.text } else node, ())
      :: foreseenOpened rest (inner + 1) (run ++ read) outer

def foreseen (spans : Spans) (rest : List Mark) : Blocks :=
  { complete := spans.complete, opened := foreseenOpened rest 0 [] spans.opened }

theorem length_foreseenOpened (rest : List Mark) (inner : Nat) (read : List Mark)
    (opened : List (Node × List Mark)) :
    (foreseenOpened rest inner read opened).length = opened.length := by
  induction opened generalizing inner read with
  | nil => rfl
  | cons container outer ih => simp [foreseenOpened, ih]

theorem foreseenOpened_nil (inner : Nat) (read : List Mark) (opened : List (Node × List Mark)) :
    foreseenOpened [] inner read opened = opened.map fun container => (container.1, ()) := by
  induction opened generalizing inner read with
  | nil => rfl
  | cons container outer ih =>
    rcases container with ⟨⟨_, _, _, _, _, _⟩, _⟩
    simp [foreseenOpened, closedRun?, ih]

theorem foreseenOpened_cons (mark : Mark) (rest : List Mark) (before after : Nat)
    (h : ∀ k, closedRun? (before + k) (mark :: rest) = (closedRun? (after + k) rest).map (mark :: ·))
    (read : List Mark) (opened : List (Node × List Mark)) :
    foreseenOpened (mark :: rest) before read opened
      =
    foreseenOpened rest after (read ++ [mark]) opened := by
  -- Each container around the innermost one is one level further away on both sides.
  induction opened generalizing before after read with
  | nil => rfl
  | cons container outer ih =>
    have hnext := ih (before + 1) (after + 1)
      (fun k => by simpa [Nat.add_assoc] using h (1 + k)) (container.2 ++ read)
    have hhead := h 0
    simp only [Nat.add_zero] at hhead
    simp [foreseenOpened, hnext, hhead, Function.comp_def]

theorem foreseenOpened_note (rest : List Mark) (inner : Nat) (read marks : List Mark)
    (spans : Spans) :
    foreseenOpened rest inner read (spans.note marks).opened
      =
    foreseenOpened rest inner (marks ++ read) spans.opened := by
  rcases spans with ⟨complete, _ | ⟨container, outer⟩⟩ <;>
    simp [note, Scaffold.modify, foreseenOpened]

theorem foreseen_add (spans : Spans) (rest : List Mark) (nodes : List Node) :
    foreseen (spans.add nodes) rest = (spans.foreseen rest).add nodes := by
  rcases spans with ⟨complete, _ | ⟨container, outer⟩⟩
  . simp [foreseen, Scaffold.add, foreseenOpened]
  . simp only [foreseen, Scaffold.add, foreseenOpened]
    split <;> simp_all [Node.adopt, Node.is]

theorem complete_note (spans : Spans) (marks : List Mark) :
    (spans.note marks).complete = spans.complete := by
  rcases spans with ⟨complete, _ | ⟨container, outer⟩⟩ <;> rfl

theorem foreseen_note (spans : Spans) (marks rest : List Mark) :
    foreseen (spans.note marks) rest
      =
    { complete := spans.complete, opened := foreseenOpened rest 0 marks spans.opened } := by
  simp [foreseen, foreseenOpened_note, complete_note]

theorem text_spanNode (mark : Mark) : mark.spanNode.text = none := by
  unfold Mark.spanNode
  split <;> rfl

theorem foreseen_step_of_opens (spans : Spans) {mark : Mark} (h : mark.opensInline = true)
    (rest : List Mark) :
    foreseen (spans.step mark) rest
      =
    (spans.foreseen (mark :: rest)).push (mark.inlineNode rest) () := by
  have hshift := foreseenOpened_cons mark rest 0 1
    (fun k => by simp [closedRun?, h, Nat.add_comm]) [] spans.opened
  simp only [step, h, ↓reduceIte, foreseen, Scaffold.push, foreseenOpened, foreseenOpened_note,
    complete_note, hshift]
  congr 2
  simp only [Mark.inlineNode, h, ↓reduceIte, text_spanNode, Option.or_none, List.nil_append]
  split
  . rfl
  . have htext := text_spanNode mark
    cases hnode : mark.spanNode
    simp_all

theorem foreseen_step_of_leaf (spans : Spans) {mark : Mark} (hopen : mark.opensInline = false)
    (hclose : mark.closesInline = false) (rest : List Mark) :
    foreseen (spans.step mark) rest
      =
    (spans.foreseen (mark :: rest)).add [mark.inlineLeaf] := by
  have hshift := foreseenOpened_cons mark rest 0 0
    (fun k => by simp [closedRun?, hopen, hclose]) [] spans.opened
  simp only [step, hopen, hclose, Bool.false_eq_true, ↓reduceIte, foreseen_add, foreseen_note]
  simp [foreseen, hshift]

theorem note_add (spans : Spans) (nodes : List Node) (marks : List Mark) :
    note (spans.add nodes) marks = (spans.note marks).add nodes := by
  rcases spans with ⟨complete, _ | ⟨container, outer⟩⟩ <;> rfl

theorem foreseenOpened_of_closes {mark : Mark} (hopen : mark.opensInline = false)
    (hclose : mark.closesInline = true) (rest : List Mark) (node : Node) (run : List Mark)
    (outer : List (Node × List Mark)) :
    foreseenOpened (mark :: rest) 0 [] ((node, run) :: outer)
      =
    ((labelled (node, run ++ [mark])).1, ()) :: foreseenOpened (mark :: rest) 1 run outer := by
  simp only [foreseenOpened, closedRun?, hopen, hclose, labelled, Node.is]
  cases node.kind == "link" <;> simp

theorem closeLabelled_cons (complete : List Node) (node : Node) (run : List Mark)
    (outer : List (Node × List Mark)) :
    closeLabelled { complete, opened := (node, run) :: outer }
      =
    (note { complete, opened := outer } run).add [(labelled (node, run)).1] := by
  rw [← note_add]
  rfl

theorem foreseen_step_of_closes (spans : Spans) {mark : Mark} (hopen : mark.opensInline = false)
    (hclose : mark.closesInline = true) (rest : List Mark) :
    foreseen (spans.step mark) rest = (spans.foreseen (mark :: rest)).close := by
  rcases spans with ⟨complete, _ | ⟨⟨node, run⟩, outer⟩⟩
  . simp [step, hopen, hclose, note, Scaffold.modify, closeLabelled, foreseen, foreseenOpened,
      Scaffold.close]
  . -- The closed container goes below the one around it, which thereby becomes the innermost one.
    have hshift := foreseenOpened_cons mark rest 1 0
      (fun k => by simp [closedRun?, hopen, hclose, Nat.add_comm 1]) run outer
    have hstep : step { complete, opened := (node, run) :: outer } mark
        = closeLabelled { complete, opened := (node, run ++ [mark]) :: outer } := by
      simp [step, hopen, hclose, note, Scaffold.modify]
    rw [hstep, closeLabelled_cons, foreseen_add, foreseen_note, ← hshift]
    simp [foreseen, foreseenOpened_of_closes hopen hclose, Scaffold.close]

theorem length_opened_closeLabelled (spans : Spans) :
    spans.closeLabelled.opened.length = spans.opened.length - 1 := by
  rcases spans with ⟨complete, _ | ⟨⟨node, run⟩, outer⟩⟩
  . rfl
  . simp [closeLabelled_cons, note]

theorem length_opened_step (spans : Spans) (mark : Mark) :
    (spans.step mark).opened.length = mark.inlineLevelAfter spans.opened.length := by
  unfold step Mark.inlineLevelAfter
  split
  . simp [note]
  . split
    . simp [length_opened_closeLabelled, note]
    . simp [note]

@[simp]
theorem length_opened_foreseen (spans : Spans) (rest : List Mark) :
    (spans.foreseen rest).opened.length = spans.opened.length := by
  simp [foreseen, length_foreseenOpened]

theorem outline_foldl_step (level : Nat) (spans : Spans) (rest : List Mark) :
    outline level (rest.foldl step spans).forest
      =
    (spans.foreseen rest).outline level ++ inlineEntries level spans.opened.length rest := by
  -- Reading a mark leaves the foreseen labels as they are, so each case moves one entry to the left.
  induction rest generalizing spans with
  | nil =>
    simp [Scaffold.outline_forest, Scaffold.outline, foreseen, foreseenOpened_nil, inlineEntries,
      Function.comp_def]
  | cons mark rest ih =>
    rw [List.foldl_cons, ih, length_opened_step]
    cases hopen : mark.opensInline with
    | true =>
      have hclose := Mark.closesInline_eq_false hopen
      rw [foreseen_step_of_opens spans hopen, Scaffold.outline_push]
      simp [inlineEntries, Mark.inlineLevelAfter, hopen, hclose, Node.outline_of_leaf]
    | false =>
      cases hclose : mark.closesInline with
      | true =>
        rw [foreseen_step_of_closes spans hopen hclose, Scaffold.outline_close]
        simp [inlineEntries, Mark.inlineLevelAfter, hopen, hclose]
      | false =>
        rw [foreseen_step_of_leaf spans hopen hclose, Scaffold.outline_add]
        simp [inlineEntries, Mark.inlineLevelAfter, hopen, hclose, outline_cons,
          Node.outline_of_leaf, Mark.inlineNode]

end Spans

theorem outline_assembleLine (level : Nat) (marks : List Mark) :
    outline level (assembleLine marks) = inlineEntries level 0 marks := by
  rw [assembleLine, Spans.outline_foldl_step]
  simp [Spans.foreseen, Spans.foreseenOpened, Scaffold.outline, openOutline]

/-! ### Blocks -/

def innerText? : (inner : Nat) → List Mark → Option String
  | _, [] => none
  | inner, mark :: rest =>
    if mark.opensBlock then
      innerText? (inner + 1) rest
    else if mark.closesBlock then
      match inner with
      | 0 => none
      | inner + 1 => innerText? inner rest
    else if mark.kind == "inline" && inner == 0 then
      (innerText? inner rest).or (some mark.content)
    else
      innerText? inner rest

/--
The node of a mark that opens a container in a stream of blocks, given the marks after it: a heading
has the level that its mark says, and headings and paragraphs have the text inside them.
-/
def Mark.blockNode (mark : Mark) (rest : List Mark) : Node :=
  let kind := mark.containerKind
  { kind
    depth := if mark.baseKind == "heading" then mark.headingLevel.toOption else none
    text := if kind == "heading" || kind == "paragraph" then innerText? 0 rest else none }

def blockEntries : (level : Nat) → List Mark → List (Nat × Node)
  | _, [] => []
  | level, mark :: rest =>
    if mark.opensBlock then
      (level, mark.blockNode rest) :: blockEntries (level + 1) rest
    else if mark.closesBlock then
      blockEntries (level - 1) rest
    else if mark.kind == "inline" then
      inlineEntries level 0 mark.children ++ blockEntries level rest
    else
      (level, mark.leafNode) :: blockEntries level rest

theorem Mark.children_blockNode (mark : Mark) (rest : List Mark) :
    (mark.blockNode rest).children = [] := rfl

@[simp]
theorem Mark.children_leafNode (mark : Mark) : mark.leafNode.children = [] := by
  unfold leafNode
  repeat' split
  all_goals rfl

theorem Mark.containerNode_eq_ok {mark : Mark} {node : Node} (h : mark.containerNode = .ok node) :
    node
      =
    { kind := mark.containerKind
      depth := if mark.baseKind == "heading" then mark.headingLevel.toOption else none } := by
  unfold containerNode at h
  split at h
  . next hbase =>
    cases hlevel : mark.headingLevel with
    | error error => simp [hlevel, bind, Except.bind] at h
    | ok level =>
      simp only [hlevel, bind, Except.bind, pure, Except.pure, Except.ok.injEq] at h
      simp [← h, hbase, Except.toOption]
  . next hbase =>
    simp only [pure, Except.pure, Except.ok.injEq] at h
    simp [← h, hbase]

theorem Mark.blockNode_eq {mark : Mark} {node : Node} (h : mark.containerNode = .ok node)
    (rest : List Mark) :
    mark.blockNode rest
      =
    if node.keepsText then { node with text := (innerText? 0 rest).or node.text } else node := by
  rw [containerNode_eq_ok h]
  unfold blockNode Node.keepsText Node.is
  by_cases hkeeps : (mark.containerKind == "heading" || mark.containerKind == "paragraph") = true
  . simp only [hkeeps, ↓reduceIte, Option.or_none]
  . simp only [hkeeps, Bool.false_eq_true, ↓reduceIte]

namespace Blocks

def foreseenOpened (rest : List Mark) : (inner : Nat) → List (Node × Unit) → List (Node × Unit)
  | _, [] => []
  | inner, (node, note) :: outer =>
    (if node.keepsText then { node with text := (innerText? inner rest).or node.text } else node,
        note)
      :: foreseenOpened rest (inner + 1) outer

def foreseen (blocks : Blocks) (rest : List Mark) : Blocks :=
  { complete := blocks.complete, opened := foreseenOpened rest 0 blocks.opened }

theorem length_foreseenOpened (rest : List Mark) (inner : Nat) (opened : List (Node × Unit)) :
    (foreseenOpened rest inner opened).length = opened.length := by
  induction opened generalizing inner with
  | nil => rfl
  | cons container outer ih => simp [foreseenOpened, ih]

@[simp]
theorem length_opened_foreseen (blocks : Blocks) (rest : List Mark) :
    (blocks.foreseen rest).opened.length = blocks.opened.length := by
  simp [foreseen, length_foreseenOpened]

theorem foreseenOpened_nil (inner : Nat) (opened : List (Node × Unit)) :
    foreseenOpened [] inner opened = opened := by
  induction opened generalizing inner with
  | nil => rfl
  | cons container outer ih =>
    rcases container with ⟨⟨_, _, _, _, _, _⟩, _⟩
    simp [foreseenOpened, innerText?, ih]

theorem foreseenOpened_cons (mark : Mark) (rest : List Mark) (before after : Nat)
    (h : ∀ k, innerText? (before + k) (mark :: rest) = innerText? (after + k) rest)
    (opened : List (Node × Unit)) :
    foreseenOpened (mark :: rest) before opened = foreseenOpened rest after opened := by
  induction opened generalizing before after with
  | nil => rfl
  | cons container outer ih =>
    have hnext := ih (before + 1) (after + 1)
      (fun k => by simpa [Nat.add_assoc] using h (1 + k))
    have hhead := h 0
    simp only [Nat.add_zero] at hhead
    simp [foreseenOpened, hnext, hhead]

theorem foreseen_add (blocks : Blocks) (rest : List Mark) (nodes : List Node) :
    foreseen (blocks.add nodes) rest = (blocks.foreseen rest).add nodes := by
  rcases blocks with ⟨complete, _ | ⟨container, outer⟩⟩
  . simp [foreseen, Scaffold.add, foreseenOpened]
  . simp only [foreseen, Scaffold.add, foreseenOpened]
    split <;> simp_all [Node.adopt, Node.keepsText, Node.is]

theorem foreseen_push (blocks : Blocks) {mark : Mark} {node : Node} (hopen : mark.opensBlock = true)
    (hnode : mark.containerNode = .ok node) (rest : List Mark) :
    foreseen (blocks.push node ()) rest
      =
    (blocks.foreseen (mark :: rest)).push (mark.blockNode rest) () := by
  have hshift := foreseenOpened_cons mark rest 0 1
    (fun k => by simp [innerText?, hopen, Nat.add_comm]) blocks.opened
  simp only [foreseen, Scaffold.push, foreseenOpened, hshift, Mark.blockNode_eq hnode]

theorem foreseen_close (blocks : Blocks) {mark : Mark} (hopen : mark.opensBlock = false)
    (hclose : mark.closesBlock = true) (rest : List Mark) :
    foreseen blocks.close rest = (blocks.foreseen (mark :: rest)).close := by
  rcases blocks with ⟨complete, _ | ⟨⟨node, note⟩, outer⟩⟩
  . rfl
  . have hshift := foreseenOpened_cons mark rest 1 0
      (fun k => by simp [innerText?, hopen, hclose, Nat.add_comm 1]) outer
    have htext : innerText? 0 (mark :: rest) = none := by simp [innerText?, hopen, hclose]
    simp only [Scaffold.close, foreseen_add]
    simp only [foreseen, foreseenOpened, hshift, htext, Option.none_or]
    cases node
    split <;> rfl

theorem foreseen_keepText (blocks : Blocks) {mark : Mark} (hopen : mark.opensBlock = false)
    (hclose : mark.closesBlock = false) (hinline : mark.kind = "inline") (rest : List Mark) :
    foreseen (blocks.keepText mark.content) rest = blocks.foreseen (mark :: rest) := by
  rcases blocks with ⟨complete, _ | ⟨⟨node, note⟩, outer⟩⟩
  . rfl
  . have hshift := foreseenOpened_cons mark rest 1 1
      (fun k => by simp [innerText?, hopen, hclose, Nat.add_comm 1]) outer
    have htext : innerText? 0 (mark :: rest) = (innerText? 0 rest).or (some mark.content) := by
      simp [innerText?, hopen, hclose, hinline]
    simp only [keepText, Scaffold.modify, foreseen, foreseenOpened, hshift, htext]
    split <;> simp_all [Node.keepsText, Node.is]

theorem foreseen_leaf (blocks : Blocks) {mark : Mark} (hopen : mark.opensBlock = false)
    (hclose : mark.closesBlock = false) (hinline : mark.kind ≠ "inline") (rest : List Mark) :
    foreseen blocks rest = blocks.foreseen (mark :: rest) := by
  have hshift := foreseenOpened_cons mark rest 0 0
    (fun k => by simp [innerText?, hopen, hclose, hinline]) blocks.opened
  simp only [foreseen, hshift]

theorem length_opened_keepText (blocks : Blocks) (text : String) :
    (blocks.keepText text).opened.length = blocks.opened.length := by
  simp [keepText]

theorem outline_foldlM_step {blocks final : Blocks} {rest : List Mark}
    (h : rest.foldlM step blocks = .ok final) :
    outline 0 final.forest
      =
    (blocks.foreseen rest).outline 0 ++ blockEntries blocks.opened.length rest := by
  induction rest generalizing blocks with
  | nil =>
    simp [pure, Except.pure] at h
    simp [h, Scaffold.outline_forest, foreseen, foreseenOpened_nil, blockEntries]
  | cons mark rest ih =>
    rw [List.foldlM_cons] at h
    cases hopen : mark.opensBlock with
    | true =>
      cases hnode : mark.containerNode with
      | error error => simp [step, hopen, hnode, bind, Except.bind] at h
      | ok node =>
        -- The run was not stopped by this mark, so the rest of it is a run as well.
        have hrest : rest.foldlM step (blocks.push node ()) = .ok final := by
          simpa [step, hopen, hnode, bind, Except.bind, pure, Except.pure] using h
        rw [ih hrest, foreseen_push blocks hopen hnode, Scaffold.outline_push]
        rw [Node.outline_of_leaf (Mark.children_blockNode mark rest)]
        simp [blockEntries, hopen]
    | false =>
      cases hclose : mark.closesBlock with
      | true =>
        have hrest : rest.foldlM step blocks.close = .ok final := by
          simpa [step, hopen, hclose, bind, Except.bind, pure, Except.pure] using h
        rw [ih hrest, foreseen_close blocks hopen hclose, Scaffold.outline_close]
        simp [blockEntries, hopen, hclose]
      | false =>
        by_cases hinline : mark.kind = "inline"
        . have hrest : rest.foldlM step
              ((blocks.keepText mark.content).add (assembleLine mark.children)) = .ok final := by
            simpa [step, hopen, hclose, hinline, bind, Except.bind, pure, Except.pure] using h
          rw [ih hrest, foreseen_add, foreseen_keepText blocks hopen hclose hinline,
            Scaffold.outline_add, outline_assembleLine]
          simp [blockEntries, hopen, hclose, hinline, length_opened_keepText]
        . have hrest : rest.foldlM step (blocks.add [mark.leafNode]) = .ok final := by
            simpa [step, hopen, hclose, hinline, bind, Except.bind, pure, Except.pure] using h
          rw [ih hrest, foreseen_add, foreseen_leaf blocks hopen hclose hinline,
            Scaffold.outline_add]
          simp [blockEntries, hopen, hclose, hinline, outline_cons, Node.outline_of_leaf]

end Blocks

theorem outline_of_assemble {marks : List Mark} {forest : List Node}
    (h : assemble marks = .ok forest) : outline 0 forest = blockEntries 0 marks := by
  unfold assemble at h
  cases hrun : marks.foldlM Blocks.step {} with
  | error error => simp [hrun, Except.map] at h
  | ok final =>
    simp only [hrun, Except.map, Except.ok.injEq] at h
    rw [← h, Blocks.outline_foldlM_step hrun]
    simp [Blocks.foreseen, Blocks.foreseenOpened, Scaffold.outline, openOutline]

/--
The walk over an assembled tree visits one node for each mark that does not close a container, in the
order of the marks and at the level given by the open containers; no other tree has this outline.
-/
theorem assemble_outline_unique {marks : List Mark} {forest : List Node}
    (h : assemble marks = .ok forest) :
    (walk forest).map Node.bare = (blockEntries 0 marks).map (·.2)
      ∧ outline 0 forest = blockEntries 0 marks
      ∧ ∀ other, outline 0 other = blockEntries 0 marks → other = forest := by
  have houtline := outline_of_assemble h
  refine ⟨?_, houtline, ?_⟩
  . rw [← houtline, map_outline]
  . intro other hother
    apply outline_injective 0
    rw [hother, houtline]

def strayMarks : List Mark :=
  [ { kind := "paragraph_close", nesting := -1 },
    { kind := "heading_open", tag := "h2", nesting := 1 },
    { kind := "inline", content := "[*a", children :=
      [ { kind := "em_close", nesting := -1 },
        { kind := "link_open", nesting := 1, attributes := [("href", "x")] },
        { kind := "text", content := "a" },
        { kind := "link_open", nesting := 1 } ] },
    { kind := "heading_close", nesting := -1 },
    { kind := "hr" } ]

def strayTree : List Node :=
  [ { kind := "heading", depth := some 2, text := some "[*a", children :=
      [ { kind := "link", href := some "x", children :=
          [ { kind := "text", text := some "a" }, { kind := "link" } ] } ] },
    { kind := "hr" } ]

theorem assemble_outline_unique_strayMarks :
    assemble strayMarks = .ok strayTree
      ∧ (walk strayTree).map Node.bare = (blockEntries 0 strayMarks).map (·.2)
      ∧ outline 0 strayTree = blockEntries 0 strayMarks
      ∧ ∀ other, outline 0 other = blockEntries 0 strayMarks → other = strayTree := by
  have h : assemble strayMarks = .ok strayTree := by with_unfolding_all rfl
  exact ⟨h, assemble_outline_unique h⟩

end MarkdownIntake.Document
