import MarkdownIntake.Document.Locate
import MarkdownIntake.Document.Metrics
import MarkdownIntake.Proofs.Text.Search

/-!
This module contains where snippets are located: at the line of their first occurrence, and of several
snippets at the line of the first one that occurs.
-/

namespace MarkdownIntake.Document

open MarkdownIntake.Text

def Absent (snippet markdown : String) : Prop :=
  ∀ index, ¬ OccursAt snippet.toList markdown.toList index

/-- The line of the first occurrence of a snippet, searched for from `start` on. -/
structure LineOfFirst (markdown snippet : String) (start : Int) (number : Nat) : Prop where
  first : ∃ index, FirstAt snippet.toList markdown.toList start index
    ∧ number = 1 + (markdown.toList.take index).count '\n'
  pos : 1 ≤ number
  le : number ≤ (measure markdown).lines
  line : ∃ line, (lines markdown.toList)[number - 1]? = some line
    ∧ snippet.toList.takeWhile (· ≠ '\n') <:+: line
    ∧ ('\n' ∈ snippet.toList → snippet.toList.takeWhile (· ≠ '\n') <:+ line)

theorem findLine?_eq_none_iff {markdown snippet : String} {start : Int} :
    findLine? markdown snippet start = none
      ↔
    ∀ index, Searched markdown.toList.length start index →
      ¬ OccursAt snippet.toList markdown.toList index := by
  rw [findLine?, Option.map_eq_none_iff, find?_eq_none_iff]

theorem findLine?_eq_none_iff_absent {markdown snippet : String} :
    findLine? markdown snippet 0 = none ↔ Absent snippet markdown := by
  simp [findLine?_eq_none_iff, Searched, Absent]

theorem findLine?_eq_some_iff {markdown snippet : String} {start : Int} {number : Nat} :
    findLine? markdown snippet start = some number ↔ LineOfFirst markdown snippet start number := by
  constructor
  . intro h
    obtain ⟨index, hfound, rfl⟩ := Option.map_eq_some_iff.mp h
    have hfirst := find?_eq_some_iff.mp hfound
    exact {
      first := ⟨index, hfirst, Nat.add_comm ..⟩
      pos := Nat.le_add_left 1 _
      le := by
        rw [measure, length_lines]
        exact Nat.add_le_add_right ((List.take_sublist index _).count_le '\n') 1
      line := hfirst.occurs.exists_line }
  . rintro ⟨⟨index, hfirst, rfl⟩, -, -, -⟩
    exact Option.map_eq_some_iff.mpr ⟨index, find?_eq_some_iff.mpr hfirst, Nat.add_comm ..⟩

/-! ### Several snippets -/

theorem locate_eq_unknown_iff {markdown : String} {snippets : List String} :
    locate markdown snippets = .unknown ↔ ∀ snippet ∈ snippets, Absent snippet markdown := by
  have hnone : locate markdown snippets = .unknown
      ↔ snippets.findSome? (findLine? markdown · 0) = none := by
    unfold locate
    cases snippets.findSome? (findLine? markdown · 0) <;> simp
  simp only [hnone, List.findSome?_eq_none_iff, findLine?_eq_none_iff_absent]

theorem locate_append_cons {markdown snippet : String} {before after : List String} {number : Nat}
    (hbefore : ∀ other ∈ before, Absent other markdown)
    (h : LineOfFirst markdown snippet 0 number) :
    locate markdown (before ++ snippet :: after) = .line number := by
  have hnone : before.findSome? (findLine? markdown · 0) = none := by
    simp only [List.findSome?_eq_none_iff, findLine?_eq_none_iff_absent]
    exact hbefore
  rw [locate, List.findSome?_append, hnone, Option.none_or, List.findSome?_cons,
    findLine?_eq_some_iff.mpr h]

theorem exists_of_locate_eq_line {markdown : String} {snippets : List String} {number : Int}
    (h : locate markdown snippets = .line number) :
    ∃ before snippet after, ∃ found : Nat, snippets = before ++ snippet :: after
      ∧ (∀ other ∈ before, Absent other markdown) ∧ LineOfFirst markdown snippet 0 found
      ∧ number = found := by
  unfold locate at h
  split at h
  . next found hfound =>
    obtain ⟨before, snippet, after, hsnippets, hline, hbefore⟩ := List.findSome?_eq_some_iff.mp hfound
    refine ⟨before, snippet, after, found, hsnippets, fun other hother => ?_,
      findLine?_eq_some_iff.mp hline, (Place.line.inj h).symm⟩
    exact findLine?_eq_none_iff_absent.mp (hbefore other hother)
  . cases h

theorem locate_cases (markdown : String) (snippets : List String) :
    locate markdown snippets = .unknown
      ∨ ∃ number : Nat, locate markdown snippets = .line number ∧ 1 ≤ number
        ∧ number ≤ (measure markdown).lines := by
  unfold locate
  cases hfound : snippets.findSome? (findLine? markdown · 0) with
  | none => exact .inl rfl
  | some number =>
    obtain ⟨snippet, -, hnumber⟩ := List.exists_of_findSome?_eq_some hfound
    have hline := findLine?_eq_some_iff.mp hnumber
    exact .inr ⟨number, rfl, hline.pos, hline.le⟩

end MarkdownIntake.Document
