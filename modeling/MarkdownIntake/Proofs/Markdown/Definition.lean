import MarkdownIntake.Markdown.Container
import MarkdownIntake.Markdown.Definition
import Mathlib.Data.List.Basic

/-!
This module contains the number of lines of a definition: it never has more of them than the text that
it is read from.
-/

namespace MarkdownIntake.Markdown

theorem count_dropLast_take_le (length : Nat) (text : List Char) :
    (text.take length).dropLast.count '\n' ≤ text.dropLast.count '\n' := by
  apply List.Sublist.count_le
  rw [List.dropLast_eq_take, List.dropLast_eq_take, List.take_take, List.length_take]
  apply List.take_sublist_take_left
  omega

theorem lineCount_definition? {text : List Char} {found : Definition}
    (h : definition? text = some found) : found.lineCount ≤ text.dropLast.count '\n' + 1 := by
  have hlines {rest : List Char} {key address : String}
      (h : (if key.isEmpty then none
        else some { key, address
                    lineCount := 1 + (text.take (text.length - rest.length)).dropLast.count '\n' })
        = some found) : found.lineCount ≤ text.dropLast.count '\n' + 1 := by
    split at h
    . cases h
    . cases h
      have hread := count_dropLast_take_le (text.length - rest.length) text
      dsimp only
      omega
  unfold definition? at h
  split at h
  . simp only [Option.bind_eq_bind, Option.bind_eq_some_iff] at h
    obtain ⟨⟨label, rest⟩, -, h⟩ := h
    dsimp only at h
    split at h
    . rw [Option.bind_eq_some_iff] at h
      obtain ⟨⟨destination, lineRest⟩, -, h⟩ := h
      dsimp only at h
      split at h
      . split at h
        . rw [Option.bind_some] at h
          exact hlines h
        . rw [Option.bind_eq_some_iff] at h
          obtain ⟨rest, -, h⟩ := h
          exact hlines h
      . cases h
    . cases h
  . cases h

theorem count_dropLast_flatten {pieces : List (List Char)} (hne : pieces ≠ [])
    (h : ∀ piece ∈ pieces, '\n' ∉ piece.dropLast) :
    pieces.flatten.dropLast.count '\n' < pieces.length := by
  induction pieces with
  | nil => exact absurd rfl hne
  | cons piece rest ih =>
    obtain ⟨hpiece, hrest⟩ := List.forall_mem_cons.mp h
    have hlast : piece.dropLast.count '\n' = 0 := List.count_eq_zero.mpr hpiece
    rw [List.flatten_cons, List.length_cons]
    by_cases hflat : rest.flatten = []
    . rw [hflat, List.append_nil, hlast]
      exact Nat.succ_pos _
    . have hrestNe : rest ≠ [] := by
        rintro rfl
        exact hflat rfl
      have hcount : piece.count '\n' ≤ 1 := by
        cases hpieceNil : piece.reverse with
        | nil => simp [List.reverse_eq_nil_iff.mp hpieceNil]
        | cons c before =>
          obtain rfl : piece = before.reverse ++ [c] := by
            rw [← List.reverse_cons, ← hpieceNil, List.reverse_reverse]
          rw [List.dropLast_concat] at hlast
          rw [List.count_append, hlast, Nat.zero_add]
          exact List.count_le_length
      rw [List.dropLast_append_of_ne_nil hflat, List.count_append]
      have hmore := ih hrestNe hrest
      omega

theorem Container.count_dropLast_contentOf {c : Container} {start last : Nat} (hlt : start < last)
    (h : ∀ index, index < last → '\n' ∉ (c.line index).content) :
    (c.contentOf start last).dropLast.count '\n' < last - start := by
  have hlength : ((List.range' start (last - start)).map fun index =>
      (c.line index).content ++ (c.line index).ending).length = last - start := by simp
  rw [Container.contentOf]
  conv => rhs; rw [← hlength]
  apply count_dropLast_flatten
  . rw [← List.length_pos_iff, hlength]
    omega
  . intro piece hpiece
    obtain ⟨index, hindex, rfl⟩ := List.mem_map.mp hpiece
    have hline : '\n' ∉ (c.line index).content := by
      apply h
      rw [List.mem_range'_1] at hindex
      omega
    unfold Line.ending
    dsimp only
    split
    . rwa [List.dropLast_concat]
    . rw [List.append_nil]
      exact fun hmem => hline (List.dropLast_subset _ hmem)

end MarkdownIntake.Markdown
