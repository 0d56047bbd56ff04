import MarkdownIntake.Document.Title
import MarkdownIntake.Proofs.Text.Lines
import Mathlib.Data.List.TakeWhile

/-!
This module contains the lines that a title is taken from: a text has a title exactly if it has such a
line.
-/

namespace MarkdownIntake.Document

open MarkdownIntake.Text

/-- A number sign at the start of a line, a blank after it, and something that is not blank below. -/
structure TitleLine (markdown : String) (above : List Char) (blank : Char) (below : List Char) :
    Prop where
  text : markdown.toList = above ++ '#' :: blank :: below
  above : EndsLine above
  blank : isBlank blank = true
  below : below.all isBlank = false

theorem isSome_titleAfterSign? (cs : List Char) :
    (titleAfterSign? cs).isSome = true
      ↔
    ∃ blank below, cs = blank :: below ∧ isBlank blank = true ∧ below.all isBlank = false := by
  cases cs with
  | nil => simp [titleAfterSign?]
  | cons c rest =>
    have hbelow : rest.dropWhile isBlank = [] ↔ rest.all isBlank = true := by
      rw [List.dropWhile_eq_nil_iff, List.all_eq_true]
    rw [titleAfterSign?]
    split
    . next hc =>
      split
      . next hnil =>
        refine iff_of_false Bool.false_ne_true ?_
        rintro ⟨blank, below, heq, -, hany⟩
        cases heq
        rw [hbelow.mp hnil] at hany
        cases hany
      . next hne =>
        have hrest : rest.all isBlank = false := by
          rw [← Bool.not_eq_true, ← hbelow]
          exact hne
        exact iff_of_true rfl ⟨c, rest, rfl, hc, hrest⟩
    . next hc =>
      refine iff_of_false Bool.false_ne_true ?_
      rintro ⟨blank, below, heq, hblank, -⟩
      cases heq
      exact hc hblank

theorem isSome_titleFrom?_cons (lineStart : Bool) (c : Char) (rest : List Char) :
    (titleFrom? lineStart (c :: rest)).isSome = true
      ↔
    (lineStart = true ∧ c = '#' ∧ (titleAfterSign? rest).isSome = true)
      ∨ (titleFrom? (c = '\n') rest).isSome = true := by
  rw [titleFrom?]
  by_cases hstart : lineStart = true ∧ c = '#'
  . obtain ⟨rfl, rfl⟩ := hstart
    cases titleAfterSign? rest <;> simp
  . have hno : (lineStart && decide (c = '#')) = false := by
      simpa using hstart
    rw [hno, if_neg Bool.false_ne_true]
    refine ⟨.inr, ?_⟩
    rintro (⟨hline, hsign, -⟩ | h)
    . exact absurd ⟨hline, hsign⟩ hstart
    . exact h

theorem getLast?_cons_eq_feed_iff {c : Char} {above : List Char} :
    (c :: above).getLast? = some '\n'
      ↔
    above = [] ∧ decide (c = '\n') = true ∨ above.getLast? = some '\n' := by
  cases above with
  | nil => simp
  | cons d above => simp [List.getLast?_cons_cons]

theorem isSome_titleFrom? (lineStart : Bool) (cs : List Char) :
    (titleFrom? lineStart cs).isSome = true
      ↔
    ∃ above blank below, cs = above ++ '#' :: blank :: below
      ∧ (above = [] ∧ lineStart = true ∨ above.getLast? = some '\n')
      ∧ isBlank blank = true ∧ below.all isBlank = false := by
  induction cs generalizing lineStart with
  | nil => simp [titleFrom?]
  | cons c rest ih =>
    rw [isSome_titleFrom?_cons, ih, isSome_titleAfterSign?]
    refine ⟨?_, ?_⟩
    . rintro (⟨hline, rfl, blank, below, rfl, hblank⟩ | ⟨above, blank, below, rfl, habove, hblank⟩)
      . exact ⟨[], blank, below, rfl, .inl ⟨rfl, hline⟩, hblank⟩
      . exact ⟨c :: above, blank, below, rfl, .inr (getLast?_cons_eq_feed_iff.mpr habove), hblank⟩
    . rintro ⟨above, blank, below, htext, habove, hblank⟩
      cases above with
      | nil =>
        rw [List.nil_append, List.cons.injEq] at htext
        have hline : lineStart = true := by simpa using habove
        exact .inl ⟨hline, htext.1, blank, below, htext.2, hblank⟩
      | cons d above =>
        rw [List.cons_append, List.cons.injEq] at htext
        obtain ⟨rfl, rfl⟩ := htext
        have hlast : (c :: above).getLast? = some '\n' := by simpa using habove
        exact .inr ⟨above, blank, below, rfl, getLast?_cons_eq_feed_iff.mp hlast, hblank⟩

/-- Every text in place of a title is taken exactly if no line has a title. -/
theorem title_eq_fallback_iff_forall (markdown : String) :
    (∀ fallback, title markdown fallback = fallback)
      ↔
    ∀ above blank below, ¬ TitleLine markdown above blank below := by
  have hsome : (titleFrom? true markdown.toList).isSome = true
      ↔ ∃ above blank below, TitleLine markdown above blank below := by
    rw [isSome_titleFrom?]
    refine ⟨?_, ?_⟩
    . rintro ⟨above, blank, below, htext, habove, hblank, hbelow⟩
      exact ⟨above, blank, below, htext, habove.imp_left And.left, hblank, hbelow⟩
    . rintro ⟨above, blank, below, htext, habove, hblank, hbelow⟩
      exact ⟨above, blank, below, htext, habove.imp_left fun h => ⟨h, rfl⟩, hblank, hbelow⟩
  unfold title
  cases hfound : titleFrom? true markdown.toList with
  | none =>
    rw [hfound] at hsome
    refine iff_of_true (fun _ => rfl) fun above blank below h => ?_
    exact absurd (hsome.mpr ⟨above, blank, below, h⟩) (by simp)
  | some found =>
    rw [hfound] at hsome
    obtain ⟨above, blank, below, hline⟩ := hsome.mp rfl
    refine iff_of_false (fun h => ?_) fun h => h above blank below hline
    have hsame : "" = "a" := (h "").symm.trans (h "a")
    exact absurd hsame (by decide)

end MarkdownIntake.Document
