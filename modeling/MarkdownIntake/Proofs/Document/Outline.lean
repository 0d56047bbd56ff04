import MarkdownIntake.Document.Scaffold

/-!
This module contains outlines: the nodes of a forest in document order, each on its own together with
its level, the number of nodes that it stands below. A forest is determined by its outline, and the
outline of a forest under construction only ever grows at its end.
-/

namespace MarkdownIntake.Document

def Node.bare (node : Node) : Node :=
  { node with children := [] }

mutual

def Node.outline (level : Nat) : Node → List (Nat × Node)
  | ⟨kind, depth, href, text, lang, children⟩ =>
    (level, ⟨kind, depth, href, text, lang, []⟩) :: outline (level + 1) children

def outline (level : Nat) : List Node → List (Nat × Node)
  | [] => []
  | node :: rest => node.outline level ++ outline level rest

end

theorem Node.outline_eq_cons (node : Node) (level : Nat) :
    node.outline level = (level, node.bare) :: Document.outline (level + 1) node.children := by
  cases node
  simp only [Node.outline, Node.bare]

theorem Node.outline_of_leaf {node : Node} (h : node.children = []) (level : Nat) :
    node.outline level = [(level, node)] := by
  cases node
  simp_all [Node.outline, Document.outline]

@[simp]
theorem outline_nil (level : Nat) : outline level [] = [] := by
  simp only [outline]

theorem outline_cons (level : Nat) (node : Node) (rest : List Node) :
    outline level (node :: rest) = node.outline level ++ outline level rest := by
  simp only [outline]

theorem outline_append (level : Nat) (a b : List Node) :
    outline level (a ++ b) = outline level a ++ outline level b := by
  induction a with
  | nil => simp
  | cons node rest ih => simp [outline_cons, ih]

theorem Node.outline_adopt (node : Node) (nodes : List Node) (level : Nat) :
    (node.adopt nodes).outline level
      =
    node.outline level ++ Document.outline (level + 1) nodes := by
  simp [outline_eq_cons, Node.adopt, Node.bare, outline_append]

mutual

theorem Node.map_outline (level : Nat) :
    ∀ node : Node, (node.outline level).map (·.2) = node.walk.map Node.bare
  | ⟨_, _, _, _, _, children⟩ => by
    simp [Node.outline, Node.walk, Node.bare, map_outline (level + 1) children]

theorem map_outline (level : Nat) :
    ∀ forest : List Node, (outline level forest).map (·.2) = (walk forest).map Node.bare
  | [] => by simp [walk]
  | node :: rest => by
    simp [outline_cons, walk, node.map_outline level, map_outline level rest]

end

/-! ### The forest of an outline -/

def GoOnAbove (level : Nat) (entries : List (Nat × Node)) : Prop :=
  ∀ entry ∈ entries.head?, entry.1 < level

theorem GoOnAbove.outline_append {level : Nat} {entries : List (Nat × Node)}
    (h : GoOnAbove level entries) (forest : List Node) :
    GoOnAbove (level + 1) (outline level forest ++ entries) := by
  intro entry hentry
  cases forest with
  | nil =>
    have := h entry (by simpa using hentry)
    omega
  | cons node rest =>
    simp [outline_cons, Node.outline_eq_cons] at hentry
    simp [← hentry]

theorem Node.ext_bare {a b : Node} (hbare : a.bare = b.bare) (hchildren : a.children = b.children) :
    a = b := by
  cases a
  cases b
  simp_all [Node.bare]

theorem outline_append_inj {level : Nat} {a b : List Node} {s t : List (Nat × Node)}
    (hs : GoOnAbove level s) (ht : GoOnAbove level t)
    (h : outline level a ++ s = outline level b ++ t) : a = b ∧ s = t := by
  -- Where one forest ends, the other one would have to go on at `level`, and `s` or `t` with it.
  match a, b with
  | [], [] => simpa using h
  | [], node :: rest =>
    simp [outline_cons, Node.outline_eq_cons] at h
    simp [h, GoOnAbove] at hs
  | node :: rest, [] =>
    simp [outline_cons, Node.outline_eq_cons] at h
    simp [← h, GoOnAbove] at ht
  | ⟨kind, depth, href, text, lang, children⟩ :: rest, node' :: rest' =>
    simp only [outline_cons, Node.outline_eq_cons, List.cons_append, List.append_assoc,
      List.cons.injEq, Prod.mk.injEq, true_and] at h
    obtain ⟨hbare, h⟩ := h
    -- Seen from the children, the rest of the forest goes on above their level.
    have hchildren := outline_append_inj (hs.outline_append rest) (ht.outline_append rest') h
    have hrest := outline_append_inj hs ht hchildren.2
    rw [Node.ext_bare hbare hchildren.1, hrest.1]
    exact ⟨rfl, hrest.2⟩

theorem outline_injective (level : Nat) : Function.Injective (outline level) := by
  intro a b h
  have hnil : GoOnAbove level [] := by simp [GoOnAbove]
  exact (outline_append_inj (s := []) (t := []) hnil hnil (by simpa using h)).1

/-! ### Forests under construction -/

def openOutline (level : Nat) : List Node → List (Nat × Node)
  | [] => []
  | node :: outer => openOutline level outer ++ node.outline (level + outer.length)

namespace Scaffold

variable {α : Type}

def outline (level : Nat) (scaffold : Scaffold α) : List (Nat × Node) :=
  Document.outline level scaffold.complete ++ openOutline level (scaffold.opened.map (·.1))

theorem outline_foldl_adopt (level : Nat) (opened : List (Node × α)) (inner : List Node) :
    Document.outline level
        (opened.foldl (fun inner (container, _) => [container.adopt inner]) inner)
      =
    openOutline level (opened.map (·.1)) ++ Document.outline (level + opened.length) inner := by
  induction opened generalizing inner with
  | nil => simp [openOutline]
  | cons container outer ih =>
    simp [ih, openOutline, outline_cons, Node.outline_adopt, Nat.add_assoc]

theorem outline_forest (level : Nat) (scaffold : Scaffold α) :
    Document.outline level scaffold.forest = scaffold.outline level := by
  simp [forest, outline, outline_append, outline_foldl_adopt]

theorem outline_add (level : Nat) (scaffold : Scaffold α) (nodes : List Node) :
    (scaffold.add nodes).outline level
      =
    scaffold.outline level ++ Document.outline (level + scaffold.opened.length) nodes := by
  rcases scaffold with ⟨complete, _ | ⟨⟨node, note⟩, outer⟩⟩
  . simp [add, outline, openOutline, outline_append]
  . simp [add, outline, openOutline, Node.outline_adopt, Nat.add_assoc]

theorem outline_push (level : Nat) (scaffold : Scaffold α) (node : Node) (note : α) :
    (scaffold.push node note).outline level
      =
    scaffold.outline level ++ node.outline (level + scaffold.opened.length) := by
  simp [push, outline, openOutline]

theorem outline_close (level : Nat) (scaffold : Scaffold α) :
    scaffold.close.outline level = scaffold.outline level := by
  rcases scaffold with ⟨complete, _ | ⟨⟨node, note⟩, outer⟩⟩
  . simp [close]
  . simp only [close]
    rw [outline_add]
    simp [outline, openOutline, outline_cons]

@[simp]
theorem length_opened_modify (scaffold : Scaffold α) (change : Node × α → Node × α) :
    (scaffold.modify change).opened.length = scaffold.opened.length := by
  rcases scaffold with ⟨complete, _ | ⟨container, outer⟩⟩ <;> simp [modify]

@[simp]
theorem length_opened_add (scaffold : Scaffold α) (nodes : List Node) :
    (scaffold.add nodes).opened.length = scaffold.opened.length := by
  rcases scaffold with ⟨complete, _ | ⟨⟨node, note⟩, outer⟩⟩ <;> simp [add]

@[simp]
theorem length_opened_push (scaffold : Scaffold α) (node : Node) (note : α) :
    (scaffold.push node note).opened.length = scaffold.opened.length + 1 := by
  simp [push]

@[simp]
theorem length_opened_close (scaffold : Scaffold α) :
    scaffold.close.opened.length = scaffold.opened.length - 1 := by
  rcases scaffold with ⟨complete, _ | ⟨⟨node, note⟩, outer⟩⟩ <;> simp [close]

end Scaffold

end MarkdownIntake.Document
