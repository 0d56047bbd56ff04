import MarkdownIntake.Markdown.Reading
import MarkdownIntake.Proofs.Document.Place
import MarkdownIntake.Proofs.Review.Findings
import Mathlib.Data.List.Forall2

/-!
This module contains the places of findings. Every finding is in a line of the document or at no known
place, and a link without an address is located by its label, unless the label is empty.
-/

namespace MarkdownIntake.Review

open MarkdownIntake.Document MarkdownIntake.Markdown MarkdownIntake.Text

theorem exists_place_eq_locate {markdown : String} {limits : Limits} {forest : List Node}
    {finding : Finding} (h : finding ∈ (remarks markdown limits forest).findings) :
    ∃ snippets, finding.place = locate markdown snippets := by
  rw [findings_remarks] at h
  simp only [List.mem_append, titleFindings, brokenImageFindings, silentImageFindings,
    brokenLinkFindings] at h
  rcases h with ((h | h) | h) | h
  . split at h
    . obtain ⟨heading, -, rfl⟩ := List.mem_map.mp h
      exact ⟨_, rfl⟩
    . cases h
  all_goals
    obtain ⟨node, -, rfl⟩ := List.mem_map.mp h
    exact ⟨_, rfl⟩

theorem mem_findings_of_review {markdown title : String} {limits : Limits}
    {reading : Except String (List Node)} {assessment : Assessment}
    (h : review markdown title limits reading = .ok assessment) {finding : Finding}
    (hfinding : finding ∈ assessment.findings) :
    ∃ forest, finding ∈ (remarks markdown limits forest).findings := by
  cases reading with
  | error reason =>
    obtain ⟨failed, hfailed, -, hremarks, -⟩ := review_error markdown title limits reason
    rw [hfailed, Except.ok.injEq] at h
    rw [← h, Assessment.findings, hremarks] at hfinding
    cases hfinding
  | ok forest =>
    rw [Assessment.findings, (review_eq_ok h).1] at hfinding
    exact ⟨forest, hfinding⟩

theorem place_of_review {markdown title : String} {limits : Limits}
    {reading : Except String (List Node)} {assessment : Assessment}
    (h : review markdown title limits reading = .ok assessment) {finding : Finding}
    (hfinding : finding ∈ assessment.findings) :
    finding.place = .unknown
      ∨ ∃ number : Nat, finding.place = .line number ∧ 1 ≤ number
        ∧ number ≤ (measure markdown).lines := by
  obtain ⟨forest, hremark⟩ := mem_findings_of_review h hfinding
  obtain ⟨snippets, hplace⟩ := exists_place_eq_locate hremark
  rw [hplace]
  exact locate_cases markdown snippets

/--
Lines are found where the snippet occurs first, of several snippets by the first one that occurs at all,
and so every finding of every review is in a line of the document, if its place is known.
-/
theorem lines_of_places (markdown : String) :
    (∀ snippet start,
      (findLine? markdown snippet start = none
        ↔ ∀ index, Searched markdown.toList.length start index →
          ¬ OccursAt snippet.toList markdown.toList index)
      ∧ ∀ number, findLine? markdown snippet start = some number →
        LineOfFirst markdown snippet start number)
      ∧ (∀ snippets,
        (locate markdown snippets = .unknown ↔ ∀ snippet ∈ snippets, Absent snippet markdown)
        ∧ ∀ before snippet after number, snippets = before ++ snippet :: after →
          (∀ other ∈ before, Absent other markdown) → LineOfFirst markdown snippet 0 number →
          locate markdown snippets = .line number)
      ∧ ∀ title limits reading assessment, review markdown title limits reading = .ok assessment →
        ∀ finding ∈ assessment.findings, finding.place = .unknown
          ∨ ∃ number : Nat, finding.place = .line number ∧ 1 ≤ number
            ∧ number ≤ (measure markdown).lines := by
  refine ⟨fun snippet start => ⟨findLine?_eq_none_iff, fun _ => findLine?_eq_some_iff.mp⟩,
    fun snippets => ⟨locate_eq_unknown_iff, ?_⟩, fun _ _ _ _ h _ => place_of_review h⟩
  rintro before snippet after number rfl hbefore h
  exact locate_append_cons hbefore h

theorem lines_of_places_secondSnippet :
    Absent "c" "b\na" ∧ LineOfFirst "b\na" "a" 0 2 ∧ locate "b\na" ["c", "a", "b"] = .line 2 := by
  have habsent : Absent "c" "b\na" := findLine?_eq_none_iff_absent.mp (by decide)
  have hline : LineOfFirst "b\na" "a" 0 2 := findLine?_eq_some_iff.mp (by decide)
  obtain ⟨-, hsnippets, -⟩ := lines_of_places "b\na"
  exact ⟨habsent, hline, (hsnippets _).2 ["c"] "a" ["b"] 2 rfl (by simpa using habsent) hline⟩

/-! ### Links without an address -/

def linkLabel (link : Node) : String :=
  link.text.getD ""

def shownLabel (link : Node) : String :=
  if linkLabel link = "" then "(no text)" else linkLabel link

theorem orElse_eq_shownLabel (link : Node) : orElse link.text "(no text)" = shownLabel link := by
  unfold orElse shownLabel linkLabel
  cases link.text <;> simp

/-- The line of the first link that has the label and no address, or else of one with a blank in it. -/
structure PlacedBy (markdown label : String) (place : Place) : Prop where
  tight : ∀ number, LineOfFirst markdown ("[" ++ label ++ "]()") 0 number → place = .line number
  spaced : Absent ("[" ++ label ++ "]()") markdown →
    ∀ number, LineOfFirst markdown ("[" ++ label ++ "]( )") 0 number → place = .line number
  unknown : Absent ("[" ++ label ++ "]()") markdown → Absent ("[" ++ label ++ "]( )") markdown →
    place = .unknown

theorem placedBy_locate (markdown label : String) :
    PlacedBy markdown label (locate markdown ["[" ++ label ++ "]()", "[" ++ label ++ "]( )"]) where
  tight := fun _ hline => locate_append_cons (List.forall_mem_nil _) hline
  spaced := fun htight _ hline => locate_append_cons (List.forall_mem_singleton.mpr htight) hline
  unknown := fun htight hspaced => locate_eq_unknown_iff.mpr (by simp [htight, hspaced])

theorem PlacedBy.unique {markdown label : String} {place other : Place}
    (h : PlacedBy markdown label place) (hother : PlacedBy markdown label other) : place = other := by
  cases htight : findLine? markdown ("[" ++ label ++ "]()") 0 with
  | some number =>
    have hline := findLine?_eq_some_iff.mp htight
    rw [h.tight number hline, hother.tight number hline]
  | none =>
    have habsent := findLine?_eq_none_iff_absent.mp htight
    cases hspaced : findLine? markdown ("[" ++ label ++ "]( )") 0 with
    | some number =>
      have hline := findLine?_eq_some_iff.mp hspaced
      rw [h.spaced habsent number hline, hother.spaced habsent number hline]
    | none =>
      have hnone := findLine?_eq_none_iff_absent.mp hspaced
      rw [h.unknown habsent hnone, hother.unknown habsent hnone]

structure LinkFinding (markdown : String) (link : Node) (finding : Finding) : Prop where
  place : PlacedBy markdown (shownLabel link) finding.place
  /-- The label itself decides the place, unless it is empty and the words for it are elsewhere. -/
  placedBy_label_iff : PlacedBy markdown (linkLabel link) finding.place
    ↔ linkLabel link ≠ ""
      ∨ ∃ place, PlacedBy markdown "" place ∧ PlacedBy markdown "(no text)" place
  element : finding.element = "[" ++ shownLabel link ++ "]()"
  additionalInfo : finding.additionalInfo = "Text: \"" ++ shownLabel link ++ "\""

theorem linkFinding_brokenLinkFinding (markdown : String) (link : Node) :
    LinkFinding markdown link (brokenLinkFinding markdown link) := by
  have hplace : PlacedBy markdown (shownLabel link) (brokenLinkFinding markdown link).place := by
    simp only [brokenLinkFinding, orElse_eq_shownLabel]
    exact placedBy_locate markdown (shownLabel link)
  exact {
    place := hplace
    placedBy_label_iff := by
      by_cases hlabel : linkLabel link = ""
      . have hshown : shownLabel link = "(no text)" := if_pos hlabel
        rw [hshown] at hplace
        rw [hlabel]
        constructor
        . intro h
          exact .inr ⟨_, h, hplace⟩
        . rintro (h | ⟨place, hempty, hwords⟩)
          . exact absurd rfl h
          . rwa [hplace.unique hwords]
      . have hshown : shownLabel link = linkLabel link := if_neg hlabel
        rw [hshown] at hplace
        exact iff_of_true hplace (.inl hlabel)
    element := by simp only [brokenLinkFinding, orElse_eq_shownLabel]
    additionalInfo := by simp only [brokenLinkFinding, orElse_eq_shownLabel] }

theorem filter_brokenLink_findings (markdown : String) (limits : Limits) (forest : List Node) :
    (remarks markdown limits forest).findings.filter (·.category = brokenLink)
      =
    brokenLinkFindings markdown forest := by
  rw [findings_remarks]
  simp only [List.filter_append]
  rw [List.filter_eq_nil_iff.mpr fun _ h => by
      simp [(of_mem_titleFindings h).2.1, multipleTopHeadings, brokenLink],
    List.filter_eq_nil_iff.mpr fun _ h => by
      simp [(of_mem_brokenImageFindings h).2, brokenImage, brokenLink],
    List.filter_eq_nil_iff.mpr fun _ h => by
      simp [(of_mem_silentImageFindings h).2, missingAltText, brokenLink],
    List.filter_eq_self.mpr fun _ h => by simp [(of_mem_brokenLinkFindings h).2]]
  simp

/-- Every link without an address is found, in the order of the document. -/
theorem places_of_brokenLinks {markdown title : String} {limits : Limits} {forest : List Node}
    {assessment : Assessment} (h : review markdown title limits (.ok forest) = .ok assessment) :
    List.Forall₂ (LinkFinding markdown) (brokenLinks forest)
      (assessment.findings.filter (·.category = brokenLink)) := by
  rw [Assessment.findings, (review_eq_ok h).1, filter_brokenLink_findings, brokenLinkFindings,
    List.forall₂_map_right_iff, List.forall₂_same]
  exact fun link _ => linkFinding_brokenLinkFinding markdown link

def deadLinks : List Node :=
  [ { kind := "blockquote", children := [ { kind := "link", text := some "a" } ] },
    { kind := "link", href := some " " } ]

theorem places_of_brokenLinks_deadLinks :
    ∃ assessment, review "[a]( )\n[]()" "" {} (.ok deadLinks) = .ok assessment
      ∧ assessment.findings.map (·.place) = [.line 1, .unknown]
      ∧ List.Forall₂ (LinkFinding "[a]( )\n[]()") (brokenLinks deadLinks)
        (assessment.findings.filter (·.category = brokenLink)) := by
  have h := review_of_levelsComparable "[a]( )\n[]()" "" {} deadLinks (by decide) (by decide +kernel)
  exact ⟨_, h, by decide +kernel, places_of_brokenLinks h⟩

def wordsBelow : String :=
  "[]()\n\n`[(no text)]()`\n"

theorem unlabelled_link_placed_at_words :
    (brokenLinks (readDocument wordsBelow)).map linkLabel = [""]
      ∧ LineOfFirst wordsBelow "[]()" 0 1
      ∧ (∃ assessment, review wordsBelow "" {} (.ok (readDocument wordsBelow)) = .ok assessment
        ∧ assessment.findings.map (·.place) = [.line 3])
      ∧ ¬ PlacedBy wordsBelow "" (.line 3) := by
  have hline : LineOfFirst wordsBelow "[]()" 0 1 := findLine?_eq_some_iff.mp (by decide)
  have h := review_of_levelsComparable wordsBelow "" {} (readDocument wordsBelow) (by decide)
    (by decide +kernel)
  refine ⟨by decide +kernel, hline, ⟨_, h, by decide +kernel⟩, ?_⟩
  intro hplaced
  cases hplaced.tight 1 hline

end MarkdownIntake.Review
