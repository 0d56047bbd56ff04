import MarkdownIntake.Proofs.Document.Assembly

/-!
This module contains the number of containers that a stream of marks leaves open. A balanced stream
leaves open what was open before it, so what comes after it stands where it would stand without it.
-/

namespace MarkdownIntake.Document

open MarkdownIntake.Number

def Mark.levelAfter (level : Nat) (mark : Mark) : Nat :=
  if mark.opensBlock then level + 1 else if mark.closesBlock then level - 1 else level

def levelAfter (level : Nat) (marks : List Mark) : Nat :=
  marks.foldl Mark.levelAfter level

@[simp]
theorem levelAfter_nil (level : Nat) : levelAfter level [] = level := rfl

theorem levelAfter_cons (level : Nat) (mark : Mark) (rest : List Mark) :
    levelAfter level (mark :: rest) = levelAfter (mark.levelAfter level) rest := rfl

theorem levelAfter_append (level : Nat) (before after : List Mark) :
    levelAfter level (before ++ after) = levelAfter (levelAfter level before) after :=
  List.foldl_append

/-- At each level the marks close just the containers that they open. -/
def Balanced (marks : List Mark) : Prop :=
  ∀ level, levelAfter level marks = level

def Mark.HasLevel (mark : Mark) : Prop :=
  mark.baseKind = "heading" → ∃ level, mark.headingLevel = .ok level

structure Sound (marks : List Mark) : Prop where
  balanced : Balanced marks
  hasLevel : ∀ mark ∈ marks, mark.opensBlock = true → mark.HasLevel

namespace Sound

protected theorem nil : Sound [] :=
  ⟨fun _ => rfl, nofun⟩

theorem leaf {mark : Mark} (h : mark.nesting = 0) : Sound [mark] where
  balanced := by
    intro level
    simp [levelAfter_cons, Mark.levelAfter, Mark.opensBlock, Mark.closesBlock, h]
  hasLevel := by
    intro other hother hopen
    rw [List.mem_singleton] at hother
    simp [hother, Mark.opensBlock, h] at hopen

protected theorem append {a b : List Mark} (ha : Sound a) (hb : Sound b) : Sound (a ++ b) where
  balanced := by
    intro level
    rw [levelAfter_append, ha.balanced, hb.balanced]
  hasLevel := by
    intro mark hmark
    rcases List.mem_append.mp hmark with hmark | hmark
    . exact ha.hasLevel mark hmark
    . exact hb.hasLevel mark hmark

protected theorem flatMap {α : Type} {f : α → List Mark} (items : List α)
    (h : ∀ item ∈ items, Sound (f item)) : Sound (items.flatMap f) := by
  induction items with
  | nil => exact .nil
  | cons item rest ih =>
    obtain ⟨hitem, hrest⟩ := List.forall_mem_cons.mp h
    rw [List.flatMap_cons]
    exact hitem.append (ih hrest)

theorem container {opener closer : Mark} {marks : List Mark} (hopen : opener.nesting = 1)
    (hclose : closer.nesting = -1) (hlevel : opener.HasLevel) (h : Sound marks) :
    Sound (opener :: (marks ++ [closer])) where
  balanced := by
    intro level
    rw [levelAfter_cons, levelAfter_append, h.balanced]
    simp [levelAfter_cons, Mark.levelAfter, Mark.opensBlock, Mark.closesBlock, hopen, hclose]
  hasLevel := by
    intro mark hmark hmarkOpen
    rw [List.mem_cons, List.mem_append, List.mem_singleton] at hmark
    rcases hmark with rfl | hmark | rfl
    . exact hlevel
    . exact h.hasLevel mark hmark hmarkOpen
    . simp [Mark.opensBlock, hclose] at hmarkOpen

end Sound

theorem Blocks.exists_foldlM_step {marks : List Mark}
    (h : ∀ mark ∈ marks, mark.opensBlock = true → mark.HasLevel) (blocks : Blocks) :
    ∃ final, marks.foldlM step blocks = .ok final := by
  induction marks generalizing blocks with
  | nil => exact ⟨blocks, rfl⟩
  | cons mark rest ih =>
    obtain ⟨hmark, hrest⟩ := List.forall_mem_cons.mp h
    have hstep : ∃ next, blocks.step mark = .ok next := by
      unfold step
      split
      . next hopen =>
        have hnode : ∃ node, mark.containerNode = .ok node := by
          unfold Mark.containerNode
          split
          . next hbase =>
            obtain ⟨level, hlevel⟩ := hmark hopen (by simpa using hbase)
            exact ⟨_, by rw [hlevel]; rfl⟩
          . exact ⟨_, rfl⟩
        obtain ⟨node, hnode⟩ := hnode
        exact ⟨_, by rw [hnode]; rfl⟩
      . split
        . exact ⟨_, rfl⟩
        . split <;> exact ⟨_, rfl⟩
    obtain ⟨next, hnext⟩ := hstep
    obtain ⟨final, hfinal⟩ := ih hrest next
    exact ⟨final, by rw [List.foldlM_cons, hnext]; exact hfinal⟩

theorem exists_assemble {marks : List Mark}
    (h : ∀ mark ∈ marks, mark.opensBlock = true → mark.HasLevel) :
    ∃ forest, assemble marks = .ok forest := by
  obtain ⟨final, hfinal⟩ := Blocks.exists_foldlM_step h {}
  exact ⟨final.forest, by rw [assemble, hfinal]; rfl⟩

/-! ### Entries after a stream -/

theorem mem_blockEntries_append {entry : Nat × Node} {level : Nat} {before rest : List Mark}
    (h : entry ∈ blockEntries (levelAfter level before) rest) :
    entry ∈ blockEntries level (before ++ rest) := by
  induction before generalizing level with
  | nil => exact h
  | cons mark before ih =>
    rw [levelAfter_cons, Mark.levelAfter] at h
    rw [List.cons_append, blockEntries]
    split at h
    . next hopen =>
      rw [if_pos hopen]
      exact List.mem_cons_of_mem _ (ih h)
    . next hopen =>
      rw [if_neg hopen]
      split at h
      . next hclose =>
        rw [if_pos hclose]
        exact ih h
      . next hclose =>
        rw [if_neg hclose]
        split
        . exact List.mem_append_right _ (ih h)
        . exact List.mem_cons_of_mem _ (ih h)

theorem exists_mem_blockEntries {level depth : Nat} {before : List Mark} (hlevel : level < depth)
    (h : depth ≤ levelAfter level before) (rest : List Mark) :
    ∃ node, (depth - 1, node) ∈ blockEntries level (before ++ rest) := by
  induction before generalizing level with
  | nil => exact absurd h (Nat.not_le.mpr hlevel)
  | cons mark before ih =>
    rw [levelAfter_cons, Mark.levelAfter] at h
    rw [List.cons_append, blockEntries]
    split at h
    . next hopen =>
      rw [if_pos hopen]
      by_cases hnext : level + 1 < depth
      . obtain ⟨node, hnode⟩ := ih hnext h
        exact ⟨node, List.mem_cons_of_mem _ hnode⟩
      . obtain rfl : depth = level + 1 := by omega
        exact ⟨_, List.mem_cons_self⟩
    . next hopen =>
      rw [if_neg hopen]
      split at h
      . next hclose =>
        rw [if_pos hclose]
        exact ih (by omega) h
      . next hclose =>
        obtain ⟨node, hnode⟩ := ih hlevel h
        rw [if_neg hclose]
        split
        . exact ⟨node, List.mem_append_right _ hnode⟩
        . exact ⟨node, List.mem_cons_of_mem _ hnode⟩

/-! ### Top nodes -/

mutual

theorem Node.le_of_mem_outline {level : Nat} {entry : Nat × Node} :
    ∀ node : Node, entry ∈ node.outline level → level ≤ entry.1
  | ⟨_, _, _, _, _, children⟩, h => by
    rw [Node.outline, List.mem_cons] at h
    rcases h with rfl | h
    . exact Nat.le_refl level
    . exact Nat.le_of_succ_le (le_of_mem_outline children h)

theorem le_of_mem_outline {level : Nat} {entry : Nat × Node} :
    ∀ forest : List Node, entry ∈ outline level forest → level ≤ entry.1
  | [], h => by simp at h
  | node :: rest, h => by
    rw [outline_cons, List.mem_append] at h
    rcases h with h | h
    . exact node.le_of_mem_outline h
    . exact le_of_mem_outline rest h

end

theorem exists_of_mem_outline {level : Nat} {node : Node} {forest : List Node}
    (h : (level, node) ∈ outline level forest) : ∃ top ∈ forest, top.bare = node := by
  induction forest with
  | nil => simp at h
  | cons first rest ih =>
    rw [outline_cons, Node.outline_eq_cons, List.cons_append, List.mem_cons, List.mem_append] at h
    rcases h with h | h | h
    . exact ⟨first, List.mem_cons_self, (Prod.mk.inj h).2.symm⟩
    . exact absurd (le_of_mem_outline first.children h) (Nat.not_succ_le_self level)
    . obtain ⟨top, htop, hbare⟩ := ih h
      exact ⟨top, List.mem_cons_of_mem first htop, hbare⟩

theorem exists_top_of_assemble {before after : List Mark} {opener : Mark} {forest : List Node}
    (h : assemble (before ++ opener :: after) = .ok forest) (hbefore : levelAfter 0 before = 0)
    (hopen : opener.opensBlock = true) : ∃ top ∈ forest, top.bare = opener.blockNode after := by
  apply exists_of_mem_outline
  rw [outline_of_assemble h]
  apply mem_blockEntries_append
  rw [hbefore, blockEntries, if_pos hopen]
  exact List.mem_cons_self

end MarkdownIntake.Document
