import MarkdownIntake.Document.Node

/-!
This module contains what the three views of a forest show: the walk visits every node at any depth,
the links are those among them, and the surface shows the top nodes and what is right below paragraphs.
-/

namespace MarkdownIntake.Document

inductive Inside (node : Node) : List Node → Prop where
  | top {forest : List Node} (h : node ∈ forest) : Inside node forest
  | deeper {forest : List Node} {parent : Node} (hparent : parent ∈ forest)
      (h : Inside node parent.children) : Inside node forest

def OnSurface (node : Node) (forest : List Node) : Prop :=
  node ∈ forest ∨ ∃ parent ∈ forest, parent.kind = "paragraph" ∧ node ∈ parent.children

theorem walk_eq_flatMap (forest : List Node) :
    walk forest = forest.flatMap fun node => node :: walk node.children := by
  induction forest with
  | nil => simp [walk]
  | cons node rest ih =>
    cases node
    simp [walk, Node.walk, ih]

theorem mem_walk {node : Node} {forest : List Node} :
    node ∈ walk forest ↔ ∃ top ∈ forest, node = top ∨ node ∈ walk top.children := by
  rw [walk_eq_flatMap]
  simp

theorem Inside.of_mem_walk {node : Node} :
    ∀ {forest : List Node}, node ∈ walk forest → Inside node forest
  | [], h => by simp [walk] at h
  | ⟨kind, depth, href, text, lang, children⟩ :: rest, h => by
    simp only [walk, Node.walk, List.cons_append, List.mem_cons, List.mem_append] at h
    rcases h with rfl | h | h
    . exact .top List.mem_cons_self
    . exact .deeper List.mem_cons_self (of_mem_walk h)
    . cases of_mem_walk h with
      | top h => exact .top (List.mem_cons_of_mem _ h)
      | deeper hparent h => exact .deeper (List.mem_cons_of_mem _ hparent) h

theorem mem_walk_iff_inside {node : Node} {forest : List Node} :
    node ∈ walk forest ↔ Inside node forest := by
  constructor
  . exact Inside.of_mem_walk
  . intro h
    induction h with
    | top h => exact mem_walk.mpr ⟨node, h, .inl rfl⟩
    | deeper hparent _ ih => exact mem_walk.mpr ⟨_, hparent, .inr ih⟩

theorem mem_links_iff {node : Node} {forest : List Node} :
    node ∈ links forest ↔ Inside node forest ∧ node.kind = "link" := by
  simp [links, mem_walk_iff_inside, Node.is]

theorem mem_surface_iff {node : Node} {forest : List Node} :
    node ∈ surface forest ↔ OnSurface node forest := by
  simp only [surface, List.mem_flatMap, OnSurface]
  constructor
  . rintro ⟨top, htop, h⟩
    split at h
    . next hparagraph =>
      rcases List.mem_cons.mp h with rfl | h
      . exact .inl htop
      . exact .inr ⟨top, htop, by simpa [Node.is] using hparagraph, h⟩
    . exact .inl (by simpa [List.mem_singleton.mp h] using htop)
  . rintro (h | ⟨top, htop, hparagraph, h⟩)
    . refine ⟨node, h, ?_⟩
      split <;> simp
    . refine ⟨top, htop, ?_⟩
      simp [Node.is, hparagraph, h]

/-! ### Counting -/

mutual

def Node.countInside (p : Node → Bool) : Node → Nat
  | ⟨kind, depth, href, text, lang, children⟩ =>
    (if p ⟨kind, depth, href, text, lang, children⟩ then 1 else 0) + countInside p children

def countInside (p : Node → Bool) : List Node → Nat
  | [] => 0
  | node :: rest => node.countInside p + countInside p rest

end

mutual

theorem Node.countP_walk (p : Node → Bool) : ∀ node : Node, node.walk.countP p = node.countInside p
  | ⟨_, _, _, _, _, children⟩ => by
    rw [Node.walk, List.countP_cons, countP_walk p children, Node.countInside, Nat.add_comm]

theorem countP_walk (p : Node → Bool) :
    ∀ forest : List Node, (walk forest).countP p = countInside p forest
  | [] => by rw [walk, countInside, List.countP_nil]
  | node :: rest => by
    rw [walk, List.countP_append, node.countP_walk p, countP_walk p rest, countInside]

end

theorem sublist_walk (forest : List Node) : forest.Sublist (walk forest) := by
  induction forest with
  | nil => exact List.nil_sublist _
  | cons node rest ih =>
    rw [walk_eq_flatMap, List.flatMap_cons, ← walk_eq_flatMap, List.cons_append]
    exact (ih.trans (List.sublist_append_right _ _)).cons_cons node

theorem surface_sublist_walk (forest : List Node) : (surface forest).Sublist (walk forest) := by
  induction forest with
  | nil => exact List.nil_sublist _
  | cons node rest ih =>
    rw [walk_eq_flatMap, surface, List.flatMap_cons, List.flatMap_cons, ← walk_eq_flatMap, ← surface]
    refine List.Sublist.append ?_ ih
    split
    . exact (sublist_walk node.children).cons_cons node
    . exact (List.nil_sublist _).cons_cons node

end MarkdownIntake.Document
