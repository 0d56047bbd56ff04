import MarkdownIntake.Proofs.Csv.LineReader
import MarkdownIntake.Proofs.Json.Reader
import MarkdownIntake.Proofs.Review.Place

/-!
This module contains the table of findings as readers of lines see it. Of all that is written about a
finding only its element can have a carriage return outside of quotes, and then the table is refused.
-/

namespace MarkdownIntake.Review

open MarkdownIntake.Csv MarkdownIntake.Document MarkdownIntake.Markdown

theorem return_not_mem_toString (n : Nat) : '\r' ∉ (toString n).toList := by
  rw [Json.toList_toString]
  intro h
  exact absurd (Json.isDigit_of_mem_toDigits _ h) (by decide)

structure RestQuotesReturns (finding : Finding) : Prop where
  severity : QuotesReturns finding.severity.label.toList
  category : QuotesReturns finding.category.toList
  place : QuotesReturns finding.place.text.toList
  description : QuotesReturns finding.description.toList
  additionalInfo : QuotesReturns finding.additionalInfo.toList

theorem quotesReturns_locate (markdown : String) (snippets : List String) :
    QuotesReturns (locate markdown snippets).text.toList := by
  apply QuotesReturns.of_not_mem
  rcases locate_cases markdown snippets with hplace | ⟨number, hplace, -⟩
  . rw [hplace]
    decide
  . rw [hplace]
    exact return_not_mem_toString number

theorem restQuotesReturns_topHeadingFinding (markdown : String) (count : Nat) (heading : Node) :
    RestQuotesReturns (topHeadingFinding markdown count heading) where
  severity := by simp [QuotesReturns, topHeadingFinding, Severity.label]
  category := by simp [QuotesReturns, topHeadingFinding, multipleTopHeadings]
  place := quotesReturns_locate markdown _
  description := by simp [QuotesReturns, topHeadingFinding]
  additionalInfo := by
    have hinfo : (topHeadingFinding markdown count heading).additionalInfo.toList
        = "Total H1s: ".toList ++ (toString count).toList := String.toList_append
    apply QuotesReturns.of_not_mem
    rw [hinfo, List.mem_append, not_or]
    exact ⟨by decide, return_not_mem_toString count⟩

theorem restQuotesReturns_of_mem_remarks {markdown : String} {limits : Limits} {forest : List Node}
    {finding : Finding} (h : finding ∈ (remarks markdown limits forest).findings) :
    RestQuotesReturns finding := by
  rw [findings_remarks, List.mem_append, List.mem_append, List.mem_append] at h
  rcases h with ((h | h) | h) | h
  . simp only [titleFindings] at h
    split at h
    . obtain ⟨heading, -, rfl⟩ := List.mem_map.mp h
      exact restQuotesReturns_topHeadingFinding ..
    . cases h
  all_goals
    obtain ⟨node, -, rfl⟩ := List.mem_map.mp h
    constructor
    case place => exact quotesReturns_locate markdown _
    all_goals
      simp [QuotesReturns, brokenImageFinding, missingAltFinding, brokenLinkFinding, Severity.label,
        brokenImage, missingAltText, brokenLink]

theorem forall_mem_row_quotesReturns_iff {finding : Finding} (h : RestQuotesReturns finding) :
    (∀ field ∈ finding.row.map String.toList, QuotesReturns field)
      ↔
    QuotesReturns finding.element.toList := by
  simp [Finding.row, h.severity, h.category, h.place, h.description, h.additionalInfo]

theorem forall_mem_findingsRows_quotesReturns {findings : List Finding}
    (hrest : ∀ finding ∈ findings, RestQuotesReturns finding)
    (h : ∀ finding ∈ findings, QuotesReturns finding.element.toList) :
    ∀ row ∈ (findingsRows findings).map (·.map String.toList), ∀ field ∈ row, QuotesReturns field := by
  rintro record hrecord
  obtain ⟨row, hrow, rfl⟩ := List.mem_map.mp hrecord
  rcases List.mem_cons.mp hrow with rfl | hrow
  . decide
  . obtain ⟨finding, hfinding, rfl⟩ := List.mem_map.mp hrow
    exact (forall_mem_row_quotesReturns_iff (hrest finding hfinding)).mpr (h finding hfinding)

theorem length_of_mem_map_findingsRows (findings : List Finding) :
    ∀ row ∈ (findingsRows findings).map (·.map String.toList), 2 ≤ row.length := by
  rw [List.forall_mem_map]
  intro row hrow
  rw [List.length_map, length_of_mem_findingsRows hrow]
  decide

theorem readTextLines_of_quotesReturns {findings : List Finding}
    (hrest : ∀ finding ∈ findings, RestQuotesReturns finding)
    (h : ∀ finding ∈ findings, QuotesReturns finding.element.toList) :
    readTextLines (findingsText findings) = .ok (columns :: findings.map Finding.row) := by
  have hread := readLines_text (length_of_mem_map_findingsRows findings)
    (forall_mem_findingsRows_quotesReturns hrest h)
  rw [readTextLines, findingsText, String.toList_ofList, ← findingsRows, hread]
  simp only [Except.map, Except.mapError, stringRows_map_toList, findingsRows]

theorem readTextLines_of_return {before : List Finding}
    (hrest : ∀ finding ∈ before, RestQuotesReturns finding)
    (hbefore : ∀ finding ∈ before, QuotesReturns finding.element.toList) {finding : Finding}
    (hfinding : RestQuotesReturns finding) (h : ¬ QuotesReturns finding.element.toList)
    (after : List Finding) :
    readTextLines (findingsText (before ++ finding :: after))
      =
    .error (columns :: before.map Finding.row) := by
  have hrow : finding.row.map String.toList
      = [finding.severity.label.toList, finding.category.toList, finding.place.text.toList]
        ++ finding.element.toList :: [finding.description.toList, finding.additionalInfo.toList] := rfl
  have hrows : (columns :: (before ++ finding :: after).map Finding.row).map (·.map String.toList)
      = (findingsRows before).map (·.map String.toList)
        ++ finding.row.map String.toList :: (after.map Finding.row).map (·.map String.toList) := by
    simp [findingsRows]
  rw [readTextLines, findingsText, String.toList_ofList, hrows, hrow,
    readLines_text_of_return (length_of_mem_map_findingsRows before)
      (forall_mem_findingsRows_quotesReturns hrest hbefore)
      (by simp [hfinding.severity, hfinding.category, hfinding.place]) h (by simp)]
  simp only [Except.map, Except.mapError, stringRows_map_toList, findingsRows]

/--
Readers of lines read a table of findings back exactly if each return in an element stands in quotes, for
a comma, a quote or a line feed next to it. Else the first element of another kind stops them.
-/
theorem table_readBack_iff {markdown title : String} {limits : Limits}
    {reading : Except String (List Node)} {assessment : Assessment}
    (h : review markdown title limits reading = .ok assessment) :
    (readTextLines (findingsText assessment.findings)
        = .ok (columns :: assessment.findings.map Finding.row)
      ↔ ∀ finding ∈ assessment.findings, QuotesReturns finding.element.toList)
      ∧ ∀ before finding after, assessment.findings = before ++ finding :: after →
        (∀ other ∈ before, QuotesReturns other.element.toList) →
        ¬ QuotesReturns finding.element.toList →
        readTextLines (findingsText assessment.findings)
          = .error (columns :: before.map Finding.row) := by
  have hrest : ∀ finding ∈ assessment.findings, RestQuotesReturns finding := by
    intro finding hfinding
    obtain ⟨forest, hremark⟩ := mem_findings_of_review h hfinding
    exact restQuotesReturns_of_mem_remarks hremark
  have hrefused : ∀ before finding after, assessment.findings = before ++ finding :: after →
      (∀ other ∈ before, QuotesReturns other.element.toList) →
      ¬ QuotesReturns finding.element.toList →
      readTextLines (findingsText assessment.findings)
        = .error (columns :: before.map Finding.row) := by
    intro before finding after hfindings hbefore hfinding
    rw [hfindings, List.forall_mem_append, List.forall_mem_cons] at hrest
    rw [hfindings]
    exact readTextLines_of_return hrest.1 hbefore hrest.2.1 hfinding after
  refine ⟨⟨?_, readTextLines_of_quotesReturns hrest⟩, hrefused⟩
  intro hread
  by_contra hreturn
  -- The first element with an unquoted return would have stopped the reader.
  cases hfind : assessment.findings.find? (¬ QuotesReturns ·.element.toList) with
  | none => exact hreturn (by simpa using hfind)
  | some finding =>
    obtain ⟨hfinding, before, after, hfindings, hbefore⟩ := List.find?_eq_some_iff_append.mp hfind
    rw [hrefused before finding after hfindings (by simpa using hbefore) (by simpa using hfinding)]
      at hread
    cases hread

def returnsInLabels : List Node :=
  [ { kind := "link", text := some "a,\rb" }, { kind := "link", text := some "c\rd" } ]

theorem table_readBack_iff_returnsInLabels :
    ∃ assessment, review "" "" {} (.ok returnsInLabels) = .ok assessment
      ∧ ¬ readTextLines (findingsText assessment.findings)
        = .ok (columns :: assessment.findings.map Finding.row)
      ∧ readTextLines (findingsText assessment.findings)
        = .error
          [ columns,
            [ "Critical", "Broken Link", "Unknown", "[a,\rb]()", "Link has empty URL",
              "Text: \"a,\rb\"" ] ] := by
  have h := review_of_levelsComparable "" "" {} returnsInLabels (by decide) (by decide +kernel)
  obtain ⟨hiff, hrefused⟩ := table_readBack_iff h
  refine ⟨_, h, fun hread => absurd (hiff.mp hread) (by decide +kernel), ?_⟩
  exact hrefused [_] _ [] rfl (by decide +kernel) (by decide +kernel)

def returnReference : String :=
  "[a&#13;b]()\n"

/-- The only finding is in the table, and yet a reader of lines gets no more than the names of columns. -/
theorem return_refused_in_table :
    ∃ assessment, review returnReference "" {} (.ok (readDocument returnReference)) = .ok assessment
      ∧ assessment.findings.map (·.element) = ["[a\rb]()"]
      ∧ readTextLines (findingsText assessment.findings) = .error [columns] := by
  have h := review_of_levelsComparable returnReference "" {} (readDocument returnReference)
    (by decide) (by decide +kernel)
  exact ⟨_, h, by decide +kernel, by decide +kernel⟩

end MarkdownIntake.Review
