import MarkdownIntake.Document.Metrics
import MarkdownIntake.Proofs.Text.Lines
import MarkdownIntake.Proofs.Text.Run

/-!
This module contains what the size of a text counts, and how the size of a text that is put together comes
from the sizes of its parts.
-/

namespace MarkdownIntake.Document

open MarkdownIntake.Text

theorem words_measure (text : String) : (measure text).words = countRuns isBlank text.toList + 1 := by
  rw [measure, blankRuns_eq_countRuns]

/-- The numbers of a size, told by the line feeds of the text, its runs of blanks and its words. -/
structure SizeOf (text : String) (size : Metrics) : Prop where
  characters : size.characters = text.length
  lines : size.lines = text.toList.count '\n' + 1
  runs_finite : (runsOf isBlank text.toList).Finite
  words_of_runs : size.words = (runsOf isBlank text.toList).ncard + 1
  words : size.words = (words text.toList).length
    + (if StartsWith isBlank text.toList then 1 else 0)
    + (if EndsWith isBlank text.toList then 1 else 0)
    + if text = "" then 1 else 0

theorem sizeOf_measure (text : String) : SizeOf text (measure text) := by
  obtain ⟨hfinite, hncard⟩ := ncard_runsOf isBlank text.toList
  exact {
    characters := String.length_toList
    lines := length_lines text.toList
    runs_finite := hfinite
    words_of_runs := by rw [words_measure, hncard]
    words := by
      rw [words_measure, countRuns_add_one, length_words]
      simp only [String.toList_eq_nil_iff] }

/--
Besides what they count, sizes add up: the lines of texts with a line feed between them, the characters
of texts without anything between them, and the words of texts with a whole run of blanks between them.
-/
theorem measure_of_texts (a b : String) :
    SizeOf a (measure a)
      ∧ (measure (a ++ "\n" ++ b)).lines = (measure a).lines + (measure b).lines
      ∧ (measure (a ++ b)).characters = (measure a).characters + (measure b).characters
      ∧ ∀ w : String, w ≠ "" → (∀ c ∈ w.toList, isBlank c = true) →
        ¬ EndsWith isBlank a.toList → ¬ StartsWith isBlank b.toList →
        (measure (a ++ w ++ b)).words = (measure a).words + (measure b).words := by
  refine ⟨sizeOf_measure a, ?_, ?_, ?_⟩
  . rw [(sizeOf_measure _).lines, (sizeOf_measure a).lines, (sizeOf_measure b).lines]
    simp
    omega
  . rw [(sizeOf_measure _).characters, (sizeOf_measure a).characters, (sizeOf_measure b).characters,
      String.length_append]
  . intro w hne hw ha hb
    have hne : w.toList ≠ [] := mt String.toList_eq_nil_iff.mp hne
    rw [words_measure, words_measure, words_measure, String.toList_append, String.toList_append,
      List.append_assoc, countRuns_append ha, countRuns_run_append hne hw hb]
    omega

theorem measure_of_texts_mixedBlanks :
    let a := "\u00A0a b"
    let w := "\t\u2003\n"
    let b := "c\u001C"
    w ≠ "" ∧ (∀ c ∈ w.toList, isBlank c = true) ∧ ¬ EndsWith isBlank a.toList
      ∧ ¬ StartsWith isBlank b.toList
      ∧ (measure a).words = 3 ∧ (measure b).words = 2 ∧ (measure (a ++ w ++ b)).words = 5 := by
  have ha : ¬ EndsWith isBlank "\u00A0a b".toList := by decide
  have hb : ¬ StartsWith isBlank "c\u001C".toList := by decide
  obtain ⟨-, -, -, hwords⟩ := measure_of_texts "\u00A0a b" "c\u001C"
  have hw : ∀ c ∈ "\t\u2003\n".toList, isBlank c = true := List.all_eq_true.mp (by decide)
  refine ⟨by decide, hw, ha, hb, by decide, by decide, ?_⟩
  exact hwords "\t\u2003\n" (by decide) hw ha hb

end MarkdownIntake.Document
