import MarkdownIntake.Proofs.Document.Walk
import Mathlib.Data.List.Lex
import Mathlib.Data.List.Sort

/-!
This module contains where nodes stand in a forest, told by the paths of child indices that lead to
them: the walk visits every place once, in the lexicographic order of the paths, and both the links and
the surface are parts of the walk.
-/

namespace MarkdownIntake.Document

/-- The node that a path leads to; the first index is among the top nodes, each other one among children. -/
def nodeAt? : List Node → List Nat → Option Node
  | _, [] => none
  | forest, [index] => forest[index]?
  | forest, index :: next :: path =>
    forest[index]?.bind fun parent => nodeAt? parent.children (next :: path)

structure Visit where
  path : List Nat
  node : Node

def Visit.below (index : Nat) (visit : Visit) : Visit :=
  ⟨index :: visit.path, visit.node⟩

mutual

def Node.visitsBelow : Node → List Visit
  | ⟨_, _, _, _, _, children⟩ => visitsFrom 0 children

def visitsFrom (first : Nat) : List Node → List Visit
  | [] => []
  | node :: rest =>
    ⟨[first], node⟩ :: (node.visitsBelow.map (·.below first) ++ visitsFrom (first + 1) rest)

end

def visits (forest : List Node) : List Visit :=
  visitsFrom 0 forest

theorem Node.visitsBelow_eq (node : Node) : node.visitsBelow = visits node.children := by
  cases node
  rw [visitsBelow, visits]

theorem visitsFrom_eq_flatMap (first : Nat) (forest : List Node) :
    visitsFrom first forest
      =
    (forest.zipIdx first).flatMap fun (top, index) =>
      ⟨[index], top⟩ :: (visits top.children).map (·.below index) := by
  induction forest generalizing first with
  | nil => rw [visitsFrom, List.zipIdx_nil, List.flatMap_nil]
  | cons node rest ih =>
    rw [visitsFrom, node.visitsBelow_eq, ih, List.zipIdx_cons, List.flatMap_cons, List.cons_append]

theorem visits_eq_flatMap (forest : List Node) :
    visits forest
      =
    forest.zipIdx.flatMap fun (top, index) =>
      ⟨[index], top⟩ :: (visits top.children).map (·.below index) :=
  visitsFrom_eq_flatMap 0 forest

/-! ### Every place is visited -/

theorem mem_visits {visit : Visit} {forest : List Node} :
    visit ∈ visits forest
      ↔
    ∃ index top, forest[index]? = some top
      ∧ (visit = ⟨[index], top⟩ ∨ ∃ inner ∈ visits top.children, inner.below index = visit) := by
  rw [visits_eq_flatMap, List.mem_flatMap]
  simp only [Prod.exists, List.mem_zipIdx_iff_getElem?, List.mem_cons, List.mem_map]
  exact exists_comm

theorem path_ne_nil_of_mem_visits {visit : Visit} {forest : List Node} (h : visit ∈ visits forest) :
    visit.path ≠ [] := by
  obtain ⟨index, top, -, rfl | ⟨inner, -, rfl⟩⟩ := mem_visits.mp h
  . exact List.cons_ne_nil index []
  . exact List.cons_ne_nil index inner.path

theorem mem_visits_cons_iff {forest : List Node} {index : Nat} {path : List Nat} {node : Node} :
    ⟨index :: path, node⟩ ∈ visits forest
      ↔
    ∃ top, forest[index]? = some top
      ∧ (path = [] ∧ node = top ∨ ⟨path, node⟩ ∈ visits top.children) := by
  rw [mem_visits]
  constructor
  . rintro ⟨_, top, htop, heq | ⟨⟨_, _⟩, hinner, heq⟩⟩
    . cases heq
      exact ⟨_, htop, .inl ⟨rfl, rfl⟩⟩
    . cases heq
      exact ⟨top, htop, .inr hinner⟩
  . rintro ⟨top, htop, ⟨rfl, rfl⟩ | hinner⟩
    . exact ⟨index, _, htop, .inl rfl⟩
    . exact ⟨index, top, htop, .inr ⟨_, hinner, rfl⟩⟩

theorem not_mem_visits_nil {forest : List Node} {node : Node} : ⟨[], node⟩ ∉ visits forest :=
  fun h => path_ne_nil_of_mem_visits h rfl

theorem mem_visits_iff {forest : List Node} {path : List Nat} {node : Node} :
    ⟨path, node⟩ ∈ visits forest ↔ nodeAt? forest path = some node := by
  induction path generalizing forest with
  | nil => simp [not_mem_visits_nil, nodeAt?]
  | cons index path ih =>
    rw [mem_visits_cons_iff]
    -- The last index of a path leads to a top node of what is left of the forest by then.
    cases path with
    | nil => simp [not_mem_visits_nil, nodeAt?]
    | cons next path => simp [ih, nodeAt?, Option.bind_eq_some_iff]

/-! ### The order of the visits -/

theorem exists_path_of_mem_visitsFrom {visit : Visit} {first : Nat} {forest : List Node}
    (h : visit ∈ visitsFrom first forest) :
    ∃ index path, visit.path = index :: path ∧ first ≤ index := by
  rw [visitsFrom_eq_flatMap, List.mem_flatMap] at h
  obtain ⟨⟨top, index⟩, htop, hvisit⟩ := h
  have hfirst : first ≤ index := (List.mem_zipIdx htop).1
  rw [List.mem_cons, List.mem_map] at hvisit
  rcases hvisit with rfl | ⟨inner, -, rfl⟩
  . exact ⟨index, [], rfl, hfirst⟩
  . exact ⟨index, inner.path, rfl, hfirst⟩

mutual

theorem Node.pairwise_visitsBelow : ∀ node : Node,
    node.visitsBelow.Pairwise fun a b => a.path < b.path
  | ⟨_, _, _, _, _, children⟩ => by
    rw [Node.visitsBelow]
    exact pairwise_visitsFrom 0 children

theorem pairwise_visitsFrom (first : Nat) : ∀ forest : List Node,
    (visitsFrom first forest).Pairwise fun a b => a.path < b.path
  | [] => by
    rw [visitsFrom]
    exact .nil
  | node :: rest => by
    -- What is below the first node has longer paths with the same index in front, and the index of the
    -- others is greater.
    have hinner : ∀ visit ∈ node.visitsBelow, [first] < (visit.below first).path := by
      intro visit hvisit
      rw [node.visitsBelow_eq] at hvisit
      obtain ⟨index, path, hpath⟩ := List.exists_cons_of_ne_nil (path_ne_nil_of_mem_visits hvisit)
      rw [Visit.below, hpath, List.cons_lt_cons_self]
      exact List.nil_lt_cons index path
    have hbehind : ∀ path, ∀ visit ∈ visitsFrom (first + 1) rest, first :: path < visit.path := by
      intro path visit hvisit
      obtain ⟨index, behind, hpath, hindex⟩ := exists_path_of_mem_visitsFrom hvisit
      rw [hpath, List.cons_lt_cons_iff]
      exact .inl hindex
    rw [visitsFrom, List.pairwise_cons, List.pairwise_append, List.pairwise_map]
    refine ⟨?_, ?_, pairwise_visitsFrom (first + 1) rest, ?_⟩
    . intro visit hvisit
      rcases List.mem_append.mp hvisit with hvisit | hvisit
      . obtain ⟨inner, hmem, rfl⟩ := List.mem_map.mp hvisit
        exact hinner inner hmem
      . exact hbehind [] visit hvisit
    . exact (node.pairwise_visitsBelow).imp List.cons_lt_cons_self.mpr
    . intro visit hvisit other hother
      obtain ⟨inner, -, rfl⟩ := List.mem_map.mp hvisit
      exact hbehind inner.path other hother

end

theorem pairwise_visits (forest : List Node) :
    (visits forest).Pairwise fun visit later => visit.path < later.path :=
  pairwise_visitsFrom 0 forest

theorem sublist_visits_of_lt {forest : List Node} {visit other : Visit}
    (hvisit : visit ∈ visits forest) (hother : other ∈ visits forest) (h : visit.path < other.path) :
    [visit, other].Sublist (visits forest) := by
  obtain ⟨before, after, hsplit⟩ := List.append_of_mem hvisit
  have hordered := pairwise_visits forest
  rw [hsplit, List.pairwise_append] at hordered
  rw [hsplit] at hother ⊢
  rcases List.mem_append.mp hother with hother | hother
  . exact absurd (hordered.2.2 other hother visit List.mem_cons_self) (List.lt_asymm h)
  . rcases List.mem_cons.mp hother with rfl | hother
    . exact absurd h (List.lt_irrefl _)
    . exact (((List.singleton_sublist.mpr hother).cons_cons visit).trans
        (List.sublist_append_right before _))

/-! ### The nodes of the visits -/

mutual

theorem Node.map_node_visitsBelow : ∀ node : Node,
    node.visitsBelow.map (·.node) = walk node.children
  | ⟨_, _, _, _, _, children⟩ => by
    rw [Node.visitsBelow]
    exact map_node_visitsFrom 0 children

theorem map_node_visitsFrom (first : Nat) : ∀ forest : List Node,
    (visitsFrom first forest).map (·.node) = walk forest
  | [] => by rw [visitsFrom, walk, List.map_nil]
  | node :: rest => by
    rw [visitsFrom, List.map_cons, List.map_append, map_node_visitsFrom (first + 1) rest, List.map_map,
      walk_eq_flatMap (node :: rest), List.flatMap_cons, ← walk_eq_flatMap, List.cons_append,
      ← node.map_node_visitsBelow]
    rfl

end

theorem walk_eq_map_visits (forest : List Node) : walk forest = (visits forest).map (·.node) :=
  (map_node_visitsFrom 0 forest).symm

def Visit.onSurface (forest : List Node) (visit : Visit) : Bool :=
  match visit.path with
  | [_] => true
  | [index, _] => forest[index]?.any (·.is "paragraph")
  | _ => false

theorem Visit.onSurface_iff {forest : List Node} {visit : Visit} :
    visit.onSurface forest = true
      ↔
    visit.path.length = 1 ∨ ∃ index next parent, visit.path = [index, next]
      ∧ nodeAt? forest [index] = some parent ∧ parent.kind = "paragraph" := by
  unfold onSurface
  split
  . next h => simp [h]
  . next index next h => simp [h, nodeAt?, Option.any_eq_true, Node.is]
  . next hone htwo =>
    constructor
    . intro h
      cases h
    . rintro (h | ⟨index, next, -, h, -⟩)
      . obtain ⟨index, h⟩ := List.length_eq_one_iff.mp h
        exact absurd h (hone index)
      . exact absurd h (htwo index next)

theorem map_node_filter_visits (p : Visit → Bool) (forest : List Node) :
    ((visits forest).filter p).map (·.node)
      =
    forest.zipIdx.flatMap fun (top, index) =>
      (if p ⟨[index], top⟩ then [top] else [])
        ++ ((visits top.children).filter fun inner => p (inner.below index)).map (·.node) := by
  rw [visits_eq_flatMap, List.filter_flatMap, List.map_flatMap]
  apply List.flatMap_congr
  rintro ⟨top, index⟩ -
  dsimp only
  rw [List.filter_cons, List.filter_map]
  split <;> simp [Function.comp_def, Visit.below]

theorem flatMap_zipIdx {α : Type} (f : Node → List α) (forest : List Node) :
    (forest.zipIdx.flatMap fun (top, _) => f top) = forest.flatMap f := by
  rw [← List.flatMap_map, List.zipIdx_map_fst]

theorem map_node_filter_length (forest : List Node) :
    ((visits forest).filter fun visit => visit.path.length = 1).map (·.node) = forest := by
  have hbelow (top : Node) (index : Nat) :
      ((visits top.children).filter fun inner => (inner.below index).path.length = 1) = [] := by
    rw [List.filter_eq_nil_iff]
    intro inner hinner
    have hpath := path_ne_nil_of_mem_visits hinner
    simpa [Visit.below] using hpath
  rw [map_node_filter_visits]
  simp only [hbelow]
  simp [flatMap_zipIdx fun top => [top]]

theorem Visit.onSurface_below {inner : Visit} (hpath : inner.path ≠ []) {forest : List Node} {index : Nat}
    {top : Node} (htop : forest[index]? = some top) :
    (inner.below index).onSurface forest = (top.is "paragraph" && inner.path.length = 1) := by
  obtain ⟨next, rest, hinner⟩ := List.exists_cons_of_ne_nil hpath
  cases rest with
  | nil => simp [onSurface, below, hinner, htop]
  | cons => simp [onSurface, below, hinner]

theorem filter_onSurface_below {forest : List Node} {index : Nat} {top : Node}
    (htop : forest[index]? = some top) :
    ((visits top.children).filter fun inner => (inner.below index).onSurface forest).map (·.node)
      =
    if top.is "paragraph" then top.children else [] := by
  have hbelow : ∀ inner ∈ visits top.children, (inner.below index).onSurface forest
      = (top.is "paragraph" && inner.path.length = 1) :=
    fun inner hinner => inner.onSurface_below (path_ne_nil_of_mem_visits hinner) htop
  rw [List.filter_congr hbelow]
  split
  . next hparagraph => simp [hparagraph, map_node_filter_length]
  . next hparagraph => simp [hparagraph]

theorem surface_eq_map_filter (forest : List Node) :
    surface forest = ((visits forest).filter (·.onSurface forest)).map (·.node) := by
  rw [map_node_filter_visits, surface, ← flatMap_zipIdx]
  apply List.flatMap_congr
  rintro ⟨top, index⟩ htop
  rw [List.mem_zipIdx_iff_getElem?] at htop
  dsimp only
  rw [filter_onSurface_below htop]
  split <;> rfl

/-! ### The views of a forest -/

/-- Every place of a forest is visited once, in the lexicographic order of the paths. -/
structure VisitsOf (forest : List Node) (visits : List Visit) : Prop where
  mem_iff : ∀ path node, ⟨path, node⟩ ∈ visits ↔ nodeAt? forest path = some node
  paths_nodup : (visits.map (·.path)).Nodup
  ordered : visits.Pairwise fun visit later => visit.path < later.path
  ancestor_first : ∀ ancestor ∈ visits, ∀ visit ∈ visits, ancestor.path <+: visit.path →
    ancestor.path ≠ visit.path → [ancestor, visit].Sublist visits
  sibling_first : ∀ parent index other, index < other → ∀ visit ∈ visits, ∀ sibling ∈ visits,
    visit.path = parent ++ [index] → sibling.path = parent ++ [other] →
    [visit, sibling].Sublist visits

def PartOf (visits : List Visit) (p : Visit → Prop) (nodes : List Node) : Prop :=
  ∃ part : List Visit, part.Sublist visits ∧ (∀ visit ∈ visits, visit ∈ part ↔ p visit)
    ∧ nodes = part.map (·.node)

theorem visitsOf_visits (forest : List Node) : VisitsOf forest (visits forest) where
  mem_iff := fun _ _ => mem_visits_iff
  paths_nodup := by
    rw [List.Nodup, List.pairwise_map]
    refine (pairwise_visits forest).imp ?_
    intro visit later hlt heq
    rw [heq] at hlt
    exact List.lt_irrefl _ hlt
  ordered := pairwise_visits forest
  ancestor_first := by
    intro ancestor hancestor visit hvisit hprefix hne
    apply sublist_visits_of_lt hancestor hvisit
    obtain ⟨behind, hbehind⟩ := hprefix
    cases behind with
    | nil => exact absurd (by simpa using hbehind) hne
    | cons index behind =>
      have hlt : ancestor.path ++ [] < ancestor.path ++ index :: behind :=
        List.append_left_lt (List.nil_lt_cons index behind)
      rwa [List.append_nil, hbehind] at hlt
  sibling_first := by
    intro parent index other hlt visit hvisit sibling hsibling hindex hother
    apply sublist_visits_of_lt hvisit hsibling
    rw [hindex, hother]
    exact List.append_left_lt (List.cons_lt_cons_iff.mpr (.inl hlt))

theorem partOf_filter (visits : List Visit) (p : Visit → Bool) :
    PartOf visits (p · = true) ((visits.filter p).map (·.node)) := by
  refine ⟨visits.filter p, List.filter_sublist, ?_, rfl⟩
  intro visit hvisit
  rw [List.mem_filter]
  exact and_iff_right hvisit

/--
The walk visits every place of a forest once, a parent before its children and siblings in their order.
The links are the part of the visits that show links, and the surface is the part of those at the top or
right below a paragraph there.
-/
theorem views_of_visits (forest : List Node) :
    ∃ visits, VisitsOf forest visits
      ∧ walk forest = visits.map (·.node)
      ∧ PartOf visits (·.node.kind = "link") (links forest)
      ∧ PartOf visits
        (fun visit => visit.path.length = 1 ∨ ∃ index next parent, visit.path = [index, next]
          ∧ nodeAt? forest [index] = some parent ∧ parent.kind = "paragraph")
        (surface forest) := by
  refine ⟨visits forest, visitsOf_visits forest, walk_eq_map_visits forest, ?_, ?_⟩
  . have hpart := partOf_filter (visits forest) (·.node.is "link")
    rw [links, walk_eq_map_visits, List.filter_map]
    simpa [Node.is, Function.comp_def] using hpart
  . have hpart := partOf_filter (visits forest) (·.onSurface forest)
    rw [← surface_eq_map_filter] at hpart
    simpa only [Visit.onSurface_iff] using hpart

example :
    (visits
      [ { kind := "paragraph", children := [ { kind := "link", children := [ { kind := "text" } ] } ] },
        { kind := "heading" } ]).map (·.path)
      =
    [[0], [0, 0], [0, 0, 0], [1]] := by rfl

end MarkdownIntake.Document
