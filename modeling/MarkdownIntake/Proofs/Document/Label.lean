import MarkdownIntake.Proofs.Document.Assembly
import Mathlib.Data.List.Forall2

/-!
This module contains the labels of links. A label is the source of all marks between the one that opens
the link and the one that closes it, where the mark that closes a container is the first one after which
fewer containers are open than right after it was opened.
-/

namespace MarkdownIntake.Document

def openAfter (marks : List Mark) : Nat :=
  (marks.foldl Spans.step {}).opened.length

/-- With `before` read, the container of `opener` has `run` inside it and is closed by `closer`. -/
structure Encloses (before : List Mark) (opener : Mark) (run : List Mark) (closer : Mark) : Prop where
  stays : ∀ part, part <+: run → openAfter (before ++ [opener]) ≤ openAfter (before ++ opener :: part)
  closes : openAfter (before ++ opener :: (run ++ [closer])) < openAfter (before ++ [opener])

structure Site where
  before : List Mark
  mark : Mark
  after : List Mark

def sites (before : List Mark) : List Mark → List Site
  | [] => []
  | mark :: rest => ⟨before, mark, rest⟩ :: sites (before ++ [mark]) rest

theorem Site.eq_of_mem_sites {site : Site} {before marks : List Mark} (h : site ∈ sites before marks) :
    before ++ marks = site.before ++ site.mark :: site.after := by
  induction marks generalizing before with
  | nil => simp [sites] at h
  | cons mark rest ih =>
    rw [sites, List.mem_cons] at h
    rcases h with rfl | h
    . rfl
    . rw [← ih h, List.append_assoc, List.singleton_append]

/-! ### Levels -/

def inlineLevelAfter (level : Nat) (marks : List Mark) : Nat :=
  marks.foldl Mark.inlineLevelAfter level

theorem length_opened_foldl_step (spans : Spans) (marks : List Mark) :
    (marks.foldl Spans.step spans).opened.length = inlineLevelAfter spans.opened.length marks := by
  induction marks generalizing spans with
  | nil => rfl
  | cons mark rest ih => rw [List.foldl_cons, ih, Spans.length_opened_step]; rfl

theorem openAfter_append (before marks : List Mark) :
    openAfter (before ++ marks) = inlineLevelAfter (openAfter before) marks := by
  rw [openAfter, List.foldl_append, length_opened_foldl_step]
  rfl

/-- At `current` level, the first mark after which the level is below `level` comes after `run`. -/
structure Leaves (level current : Nat) (run : List Mark) (closer : Mark) : Prop where
  stays : ∀ part, part <+: run → level ≤ inlineLevelAfter current part
  leaves : inlineLevelAfter current (run ++ [closer]) < level

theorem leaves_nil_iff {level current : Nat} {closer : Mark} :
    Leaves level current [] closer ↔ level ≤ current ∧ closer.inlineLevelAfter current < level := by
  refine ⟨fun h => ⟨h.stays [] List.nil_prefix, h.leaves⟩, fun h => ⟨?_, h.2⟩⟩
  intro part hpart
  rw [List.prefix_nil] at hpart
  rw [hpart]
  exact h.1

theorem leaves_cons_iff {level current : Nat} {mark closer : Mark} {run : List Mark} :
    Leaves level current (mark :: run) closer
      ↔
    level ≤ current ∧ Leaves level (mark.inlineLevelAfter current) run closer := by
  refine ⟨fun h => ⟨h.stays [] List.nil_prefix, ?_, h.leaves⟩, fun h => ⟨?_, h.2.leaves⟩⟩
  . intro part hpart
    exact h.stays (mark :: part) (List.cons_prefix_cons.mpr ⟨rfl, hpart⟩)
  . intro part hpart
    cases part with
    | nil => exact h.1
    | cons first part =>
      obtain ⟨rfl, htail⟩ := List.cons_prefix_cons.mp hpart
      exact h.2.stays part htail

theorem encloses_iff_leaves {before run : List Mark} {opener closer : Mark} :
    Encloses before opener run closer
      ↔
    Leaves (openAfter (before ++ [opener])) (openAfter (before ++ [opener])) run closer := by
  have happend : ∀ marks, openAfter (before ++ opener :: marks)
      = inlineLevelAfter (openAfter (before ++ [opener])) marks := by
    intro marks
    rw [← openAfter_append, List.append_assoc, List.singleton_append]
  refine ⟨fun h => ⟨?_, ?_⟩, fun h => ⟨?_, ?_⟩⟩
  . intro part hpart
    rw [← happend]
    exact h.stays part hpart
  . rw [← happend]
    exact h.closes
  . intro part hpart
    rw [happend part]
    exact h.stays part hpart
  . rw [happend (run ++ [closer])]
    exact h.leaves

/-! ### Labels -/

theorem exists_leaves_cons_iff {level current : Nat} {mark : Mark} {rest run : List Mark} :
    (∃ closer later, mark :: rest = run ++ closer :: later ∧ Leaves level current run closer)
      ↔
    level ≤ current
      ∧ (run = [] ∧ mark.inlineLevelAfter current < level
        ∨ ∃ tail, run = mark :: tail ∧ ∃ closer later, rest = tail ++ closer :: later
          ∧ Leaves level (mark.inlineLevelAfter current) tail closer) := by
  constructor
  . rintro ⟨closer, later, hsplit, hleaves⟩
    cases run with
    | nil =>
      obtain ⟨rfl, -⟩ := List.cons.inj hsplit
      rw [leaves_nil_iff] at hleaves
      exact ⟨hleaves.1, .inl ⟨rfl, hleaves.2⟩⟩
    | cons first tail =>
      obtain ⟨rfl, hrest⟩ := List.cons.inj hsplit
      rw [leaves_cons_iff] at hleaves
      exact ⟨hleaves.1, .inr ⟨tail, rfl, closer, later, hrest, hleaves.2⟩⟩
  . rintro ⟨hlevel, ⟨rfl, hbelow⟩ | ⟨tail, rfl, closer, later, rfl, hleaves⟩⟩
    . exact ⟨mark, rest, rfl, leaves_nil_iff.mpr ⟨hlevel, hbelow⟩⟩
    . exact ⟨closer, later, rfl, leaves_cons_iff.mpr ⟨hlevel, hleaves⟩⟩

theorem closedRun?_eq_some_iff {level inner : Nat} (hlevel : 0 < level) {marks run : List Mark} :
    closedRun? inner marks = some run
      ↔
    ∃ closer later, marks = run ++ closer :: later ∧ Leaves level (level + inner) run closer := by
  induction marks generalizing inner run with
  | nil => simp [closedRun?]
  | cons mark rest ih =>
    have hmap : ∀ next, mark.inlineLevelAfter (level + inner) = level + next →
        ((closedRun? next rest).map (mark :: ·) = some run
          ↔ ∃ closer later, mark :: rest = run ++ closer :: later
            ∧ Leaves level (level + inner) run closer) := by
      intro next hnext
      rw [exists_leaves_cons_iff, hnext, Option.map_eq_some_iff]
      simp only [ih, Nat.le_add_right, true_and, Nat.not_lt.mpr (Nat.le_add_right level next),
        and_false, false_or]
      exact exists_congr fun tail => ⟨fun h => ⟨h.2.symm, h.1⟩, fun h => ⟨h.2, h.1.symm⟩⟩
    unfold closedRun?
    split
    . next hopen =>
      apply hmap
      simp [Mark.inlineLevelAfter, hopen, Nat.add_assoc]
    . next hopen =>
      split
      . next hclose =>
        have hafter : ∀ current, mark.inlineLevelAfter current = current - 1 := by
          intro current
          simp [Mark.inlineLevelAfter, hopen, hclose]
        split
        . -- The container itself is closed, so nothing more is inside it.
          rw [exists_leaves_cons_iff, hafter, Option.some.injEq]
          refine ⟨fun h => ⟨Nat.le_refl _, .inl ⟨h.symm, by omega⟩⟩, ?_⟩
          rintro ⟨-, ⟨rfl, -⟩ | ⟨tail, -, closer, later, -, hleaves⟩⟩
          . rfl
          . have hstays : level ≤ level + 0 - 1 := hleaves.stays [] List.nil_prefix
            omega
        . apply hmap
          rw [hafter]
          omega
      . next hclose =>
        apply hmap
        simp [Mark.inlineLevelAfter, hopen, hclose]

theorem closedRun?_eq_some_iff_encloses (before : List Mark) {rest run : List Mark} {opener : Mark}
    (hopen : opener.opensInline = true) :
    closedRun? 0 rest = some run
      ↔
    ∃ closer later, rest = run ++ closer :: later ∧ Encloses before opener run closer := by
  have hlevel : 0 < openAfter (before ++ [opener]) := by
    rw [openAfter_append]
    simp [inlineLevelAfter, Mark.inlineLevelAfter, hopen]
  simp only [encloses_iff_leaves]
  exact closedRun?_eq_some_iff hlevel

/-! ### Nodes and their marks -/

theorem Mark.opensInline_iff {mark : Mark} :
    mark.opensInline = true ↔ mark.kind = "link_open" ∨ mark.nesting = 1 := by
  simp [opensInline]

theorem Mark.kind_spanNode {mark : Mark} (hopen : mark.opensInline = true) :
    mark.spanNode.kind = "link"
      ↔
    mark.kind = "link_open" ∨ mark.nesting = 1 ∧ mark.containerKind = "link" := by
  rw [opensInline_iff] at hopen
  unfold spanNode
  by_cases hlink : mark.kind = "link_open"
  . simp [hlink]
  . simp [hlink, hopen.resolve_left hlink]

theorem Mark.kind_inlineLeaf_ne (mark : Mark) : mark.inlineLeaf.kind ≠ "link" := by
  unfold inlineLeaf
  repeat' split
  all_goals simp

/--
A node that was made for a mark of a line of text. It is a link exactly if the mark opens one; the label
of a link is the source of the run that it encloses, and there is none if it is never closed.
-/
structure MadeFor (node : Node) (site : Site) : Prop where
  isLink : node.kind = "link"
    ↔ site.mark.kind = "link_open" ∨ site.mark.nesting = 1 ∧ site.mark.containerKind = "link"
  href : site.mark.kind = "link_open" → node.href = site.mark.attribute? "href"
  label : node.kind = "link" → ∀ label, node.text = some label
    ↔ ∃ run closer later, site.after = run ++ closer :: later
      ∧ Encloses site.before site.mark run closer ∧ label = inlineSource run

theorem MadeFor.of_bare {node : Node} {site : Site}
    (h : node.bare = site.mark.inlineNode site.after) : MadeFor node site := by
  have hkind : node.kind = (site.mark.inlineNode site.after).kind := by rw [← h]; rfl
  have hhref : node.href = (site.mark.inlineNode site.after).href := by rw [← h]; rfl
  have htext : node.text = (site.mark.inlineNode site.after).text := by rw [← h]; rfl
  unfold Mark.inlineNode at hkind hhref htext
  cases hopen : site.mark.opensInline with
  | true =>
    simp only [hopen, ↓reduceIte] at hkind hhref htext
    refine ⟨?_, ?_, ?_⟩
    . rw [hkind, Mark.kind_spanNode hopen]
    . intro hlink
      simp [hhref, Mark.spanNode, hlink]
    . intro hlink label
      have his : site.mark.spanNode.is "link" = true := by simp [Node.is, ← hkind, hlink]
      rw [htext, if_pos his, Option.map_eq_some_iff]
      simp only [closedRun?_eq_some_iff_encloses site.before hopen]
      constructor
      . rintro ⟨run, ⟨closer, later, hsplit, hencloses⟩, rfl⟩
        exact ⟨run, closer, later, hsplit, hencloses, rfl⟩
      . rintro ⟨run, closer, later, hsplit, hencloses, rfl⟩
        exact ⟨run, ⟨closer, later, hsplit, hencloses⟩, rfl⟩
  | false =>
    simp only [hopen, Bool.false_eq_true, ↓reduceIte] at hkind
    have hne : node.kind ≠ "link" := hkind ▸ site.mark.kind_inlineLeaf_ne
    rw [← Bool.not_eq_true, Mark.opensInline_iff, not_or] at hopen
    refine ⟨iff_of_false hne ?_, fun hlink => absurd hlink hopen.1, fun hlink => absurd hlink hne⟩
    rintro (hlink | ⟨hnesting, -⟩)
    . exact hopen.1 hlink
    . exact hopen.2 hnesting

theorem map_inlineEntries (level inner : Nat) (before marks : List Mark) :
    (inlineEntries level inner marks).map (·.2)
      =
    ((sites before marks).filter (!·.mark.closesInline)).map
      fun site => site.mark.inlineNode site.after := by
  induction marks generalizing inner before with
  | nil => rfl
  | cons mark rest ih =>
    rw [inlineEntries, sites]
    cases hclose : mark.closesInline with
    | true => simp [hclose, ih _ (before ++ [mark])]
    | false => simp [hclose, ih _ (before ++ [mark])]

theorem map_mark_sites (before marks : List Mark) : (sites before marks).map Site.mark = marks := by
  induction marks generalizing before with
  | nil => rfl
  | cons mark rest ih => rw [sites, List.map_cons, ih]

/--
The nodes of a line of text are made for the marks that close no container, one for each and in order.
So each link has the mark that opened it, and its label is the source of the marks from there on to the
one that closes it, whatever containers and closing marks without one stand in the line.
-/
theorem labels_of_line (marks : List Mark) :
    List.Forall₂ MadeFor (walk (assembleLine marks))
        ((sites [] marks).filter (!·.mark.closesInline))
      ∧ (sites [] marks).map Site.mark = marks
      ∧ ∀ site ∈ sites [] marks, marks = site.before ++ site.mark :: site.after := by
  refine ⟨?_, map_mark_sites [] marks, fun site hsite => site.eq_of_mem_sites hsite⟩
  have hbare : (walk (assembleLine marks)).map Node.bare
      = ((sites [] marks).filter (!·.mark.closesInline)).map
        fun site => site.mark.inlineNode site.after := by
    rw [← map_outline 0, outline_assembleLine, map_inlineEntries 0 0 []]
  rw [← List.forall₂_eq_eq_eq, List.forall₂_map_left_iff, List.forall₂_map_right_iff] at hbare
  exact hbare.imp fun _ _ => MadeFor.of_bare

def nestedLine : List Mark :=
  [ { kind := "em_close", nesting := -1, markup := "*" },
    { kind := "em_open", nesting := 1, markup := "*" },
    { kind := "link_open", nesting := 1 },
    { kind := "text", content := "a " },
    { kind := "strong_open", nesting := 1, markup := "**" },
    { kind := "link_open", nesting := 1 },
    { kind := "text", content := "b" },
    { kind := "link_close", nesting := -1 },
    { kind := "strong_close", nesting := -1, markup := "**" },
    { kind := "softbreak" },
    { kind := "link_close", nesting := -1 },
    { kind := "link_open", nesting := 1 },
    { kind := "text", content := "c" } ]

example : (links (assembleLine nestedLine)).map (·.text) = [some "a **b**\n", some "b", none] := by
  decide +kernel

end MarkdownIntake.Document
