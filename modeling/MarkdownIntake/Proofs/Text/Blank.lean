import MarkdownIntake.Text.Blank
import Mathlib.Data.List.DropRight
import Mathlib.Data.List.TakeWhile

/-!
This module contains what is left of a text that is trimmed.
-/

namespace MarkdownIntake.Text

theorem dropRightWhile_eq_nil_iff {p : Char → Bool} {cs : List Char} :
    dropRightWhile p cs = [] ↔ ∀ c ∈ cs, p c := by
  simp [dropRightWhile, List.dropWhile_eq_nil_iff]

theorem stripWhile_eq_nil_iff {p : Char → Bool} {cs : List Char} :
    stripWhile p cs = [] ↔ ∀ c ∈ cs, p c := by
  rw [stripWhile, dropRightWhile_eq_nil_iff]
  refine ⟨?_, fun h c hc => h c ((List.dropWhile_sublist p).subset hc)⟩
  intro h c hc
  rw [← List.takeWhile_append_dropWhile (p := p) (l := cs), List.mem_append] at hc
  rcases hc with hc | hc
  . exact List.mem_takeWhile_imp hc
  . exact h c hc

theorem exists_eq_trimRight_append (cs : List Char) :
    ∃ trail, cs = trimRight cs ++ trail ∧ (∀ c ∈ trail, isBlank c = true)
      ∧ ∀ c ∈ (trimRight cs).getLast?, isBlank c = false := by
  refine ⟨cs.rtakeWhile isBlank, ?_, fun _ => List.mem_rtakeWhile_imp, ?_⟩
  . exact (List.rdropWhile_append_rtakeWhile (p := isBlank) (l := cs)).symm
  . intro c hc
    have hhead := List.head?_dropWhile_not isBlank cs.reverse
    rw [trimRight, dropRightWhile, List.getLast?_reverse, Option.mem_def] at hc
    rwa [hc] at hhead

theorem dropWhile_eq_self {p : Char → Bool} {cs : List Char} (h : ∀ c ∈ cs.head?, p c = false) :
    cs.dropWhile p = cs := by
  cases cs with
  | nil => rfl
  | cons c cs => rw [List.dropWhile_cons_of_neg (by simp [h c rfl])]

theorem dropRightWhile_eq_self {p : Char → Bool} {cs : List Char}
    (h : ∀ c ∈ cs.getLast?, p c = false) : dropRightWhile p cs = cs := by
  rw [dropRightWhile, dropWhile_eq_self, List.reverse_reverse]
  rwa [List.head?_reverse]

theorem dropRightWhile_append {p : Char → Bool} {trail : List Char} (h : ∀ c ∈ trail, p c = true)
    (cs : List Char) : dropRightWhile p (cs ++ trail) = dropRightWhile p cs := by
  rw [dropRightWhile, List.reverse_append, List.dropWhile_append_of_pos (by simpa using h),
    dropRightWhile]

theorem stripWhile_append {p : Char → Bool} {before cs after : List Char}
    (hbefore : ∀ c ∈ before, p c = true) (hfirst : ∀ c ∈ cs.head?, p c = false)
    (hlast : ∀ c ∈ cs.getLast?, p c = false) (hafter : ∀ c ∈ after, p c = true) :
    stripWhile p (before ++ cs ++ after) = cs := by
  rw [stripWhile, List.append_assoc, List.dropWhile_append_of_pos hbefore]
  cases cs with
  | nil => rw [List.nil_append, List.dropWhile_eq_nil_iff.mpr hafter]; rfl
  | cons c cs =>
    rw [dropWhile_eq_self (by simpa using hfirst), dropRightWhile_append hafter,
      dropRightWhile_eq_self hlast]

theorem exists_eq_stripWhile_append (p : Char → Bool) (cs : List Char) :
    ∃ before after, cs = before ++ stripWhile p cs ++ after ∧ (∀ c ∈ before, p c = true)
      ∧ ∀ c ∈ after, p c = true := by
  refine ⟨cs.takeWhile p, (cs.dropWhile p).rtakeWhile p, ?_, fun _ => List.mem_takeWhile_imp,
    fun _ => List.mem_rtakeWhile_imp⟩
  have hright : stripWhile p cs ++ (cs.dropWhile p).rtakeWhile p = cs.dropWhile p :=
    List.rdropWhile_append_rtakeWhile
  rw [List.append_assoc, hright, List.takeWhile_append_dropWhile]

theorem trim_eq_self {cs : List Char} (hfirst : ∀ c ∈ cs.head?, isBlank c = false)
    (hlast : ∀ c ∈ cs.getLast?, isBlank c = false) : trim cs = cs := by
  rw [trim, stripWhile, dropWhile_eq_self hfirst, dropRightWhile_eq_self hlast]

theorem trimmed_eq_empty_iff {text : String} : trimmed text = "" ↔ isBlankText text := by
  rw [trimmed, isBlankText, List.all_eq_true, ← stripWhile_eq_nil_iff, ← trim,
    String.ofList_eq_empty_iff]

end MarkdownIntake.Text
