import MarkdownIntake.Proofs.Review.Place

/-!
This module contains what stands at the places of findings. Places are found by the text of a snippet
alone, so a heading can be placed at a deeper one, or at prose, and a link at an image, where the same
text stands on a line further up.
-/

namespace MarkdownIntake.Review

open MarkdownIntake.Document MarkdownIntake.Markdown MarkdownIntake.Text

/-! ### Lines with a snippet -/

def lineOf (text : List Char) (index : Nat) : Nat :=
  1 + (text.take index).count '\n'

/-- A snippet begins on a line, by itself or as a part of something else. -/
def SnippetLine (markdown snippet : String) (number : Nat) : Prop :=
  ∃ index, OccursAt snippet.toList markdown.toList index ∧ number = lineOf markdown.toList index

/-- A line begins with the text of a heading, behind at most three spaces. -/
def HeadingLine (markdown element : String) (number : Nat) : Prop :=
  ∃ index indent, OccursAt (List.replicate indent ' ' ++ element.toList) markdown.toList index
    ∧ indent ≤ 3 ∧ EndsLine (markdown.toList.take index)
    ∧ number = lineOf markdown.toList index

/-- The text of a link begins on a line, and no exclamation mark in front makes an image of it. -/
def LinkLine (markdown snippet : String) (number : Nat) : Prop :=
  ∃ index, OccursAt snippet.toList markdown.toList index
    ∧ (markdown.toList.take index).getLast? ≠ some '!' ∧ number = lineOf markdown.toList index

instance (markdown element : String) (number : Nat) :
    Decidable (HeadingLine markdown element number) :=
  decidable_of_iff (∃ index, index ≤ markdown.toList.length ∧ ∃ indent, indent ≤ 3
      ∧ OccursAt (List.replicate indent ' ' ++ element.toList) markdown.toList index
      ∧ EndsLine (markdown.toList.take index)
      ∧ number = lineOf markdown.toList index)
    ⟨fun ⟨index, _, indent, hindent, hoccurs, hstart⟩ => ⟨index, indent, hoccurs, hindent, hstart⟩,
      fun ⟨index, indent, hoccurs, hindent, hstart⟩ =>
        ⟨index, hoccurs.le_length, indent, hindent, hoccurs, hstart⟩⟩

instance (markdown snippet : String) (number : Nat) : Decidable (LinkLine markdown snippet number) :=
  decidable_of_iff (∃ index, index ≤ markdown.toList.length
      ∧ OccursAt snippet.toList markdown.toList index
      ∧ (markdown.toList.take index).getLast? ≠ some '!' ∧ number = lineOf markdown.toList index)
    ⟨fun ⟨index, _, h⟩ => ⟨index, h⟩, fun ⟨index, h⟩ => ⟨index, h.1.le_length, h⟩⟩

theorem lineOf_mono (text : List Char) {index other : Nat} (h : index ≤ other) :
    lineOf text index ≤ lineOf text other :=
  Nat.add_le_add_left ((List.take_sublist_take_left h).count_le '\n') 1

theorem lineOf_add_of_not_mem {run text : List Char} {index : Nat} (h : OccursAt run text index)
    (hfeed : '\n' ∉ run) : lineOf text (index + run.length) = lineOf text index := by
  obtain ⟨before, after, rfl, rfl⟩ := h
  rw [lineOf, lineOf, List.take_left, ← List.append_assoc, ← List.length_append, List.take_left,
    List.count_append, List.count_eq_zero_of_not_mem hfeed, Nat.add_zero]

variable {markdown snippet : String} {number : Nat}

theorem LinkLine.snippetLine (h : LinkLine markdown snippet number) :
    SnippetLine markdown snippet number := by
  obtain ⟨index, hoccurs, -, hnumber⟩ := h
  exact ⟨index, hoccurs, hnumber⟩

theorem HeadingLine.snippetLine (h : HeadingLine markdown snippet number) :
    SnippetLine markdown snippet number := by
  obtain ⟨index, indent, hoccurs, -, -, hnumber⟩ := h
  have hfeed : '\n' ∉ List.replicate indent ' ' := by simp [List.mem_replicate]
  exact ⟨_, hoccurs.right, by rw [lineOf_add_of_not_mem hoccurs.left hfeed, hnumber]⟩

/-- What a line is to a snippet if it was located there: no line further up has the snippet. -/
structure FirstLine (markdown snippet : String) (own : Nat → Prop) (number : Nat) : Prop where
  line : SnippetLine markdown snippet number
  least : ∀ other, SnippetLine markdown snippet other → number ≤ other
  own_iff : own number
    ↔ ∃ other, own other ∧ ∀ third, SnippetLine markdown snippet third → other ≤ third

theorem firstLine_of_lineOfFirst (h : LineOfFirst markdown snippet 0 number) {own : Nat → Prop}
    (hown : ∀ other, own other → SnippetLine markdown snippet other) :
    FirstLine markdown snippet own number := by
  obtain ⟨index, hfirst, rfl⟩ := h.first
  have hline : SnippetLine markdown snippet (lineOf markdown.toList index) :=
    ⟨index, hfirst.occurs, rfl⟩
  have hleast (other : Nat) (hother : SnippetLine markdown snippet other) :
      lineOf markdown.toList index ≤ other := by
    obtain ⟨place, hoccurs, rfl⟩ := hother
    exact lineOf_mono _ (hfirst.least place hoccurs (by simp [Searched]))
  refine ⟨hline, hleast, fun h => ⟨_, h, hleast⟩, ?_⟩
  -- A line of the right kind with nothing above it is the line that was found.
  rintro ⟨other, hother, hothers⟩
  have heq := Nat.le_antisymm (hleast other (hown other hother)) (hothers _ hline)
  change own (lineOf markdown.toList index)
  rwa [heq]

/-! ### Findings -/

section

variable {limits : Limits} {forest : List Node} {finding : Finding}

theorem place_of_topHeading (h : finding ∈ (remarks markdown limits forest).findings)
    (hcategory : finding.category = multipleTopHeadings) :
    finding.place = locate markdown [finding.element] := by
  rw [findings_remarks] at h
  simp only [List.mem_append] at h
  rcases h with ((h | h) | h) | h
  . simp only [titleFindings] at h
    split at h
    . obtain ⟨heading, -, rfl⟩ := List.mem_map.mp h
      rfl
    . cases h
  . rw [(of_mem_brokenImageFindings h).2] at hcategory
    exact absurd hcategory (by decide)
  . rw [(of_mem_silentImageFindings h).2] at hcategory
    exact absurd hcategory (by decide)
  . rw [(of_mem_brokenLinkFindings h).2] at hcategory
    exact absurd hcategory (by decide)

theorem place_of_brokenLink (h : finding ∈ (remarks markdown limits forest).findings)
    (hcategory : finding.category = brokenLink) :
    ∃ label, finding.element = "[" ++ label ++ "]()"
      ∧ finding.place = locate markdown ["[" ++ label ++ "]()", "[" ++ label ++ "]( )"] := by
  have hfiltered :
      finding ∈ (remarks markdown limits forest).findings.filter (·.category = brokenLink) :=
    List.mem_filter.mpr ⟨h, by simpa using hcategory⟩
  rw [filter_brokenLink_findings] at hfiltered
  obtain ⟨link, -, rfl⟩ := List.mem_map.mp hfiltered
  exact ⟨_, rfl, rfl⟩

end

theorem firstLine_of_locate_title {number : Int} (h : locate markdown [snippet] = .line number) :
    ∃ line : Nat, number = line ∧ FirstLine markdown snippet (HeadingLine markdown snippet) line := by
  obtain ⟨before, found, after, line, hsnippets, -, hline, hnumber⟩ := exists_of_locate_eq_line h
  obtain ⟨rfl, rfl, rfl⟩ : before = [] ∧ found = snippet ∧ after = [] := by
    simpa [List.append_eq_cons_iff, eq_comm] using hsnippets
  exact ⟨line, hnumber, firstLine_of_lineOfFirst hline fun _ => HeadingLine.snippetLine⟩

theorem firstLine_of_locate_link {tight spaced : String} {number : Int}
    (h : locate markdown [tight, spaced] = .line number) :
    ∃ line : Nat, number = line
      ∧ (FirstLine markdown tight (LinkLine markdown tight) line
        ∨ Absent tight markdown ∧ FirstLine markdown spaced (LinkLine markdown spaced) line) := by
  obtain ⟨before, found, after, line, hsnippets, habsent, hline, hnumber⟩ := exists_of_locate_eq_line h
  have hfirst := firstLine_of_lineOfFirst hline fun _ => LinkLine.snippetLine
  refine ⟨line, hnumber, ?_⟩
  rcases before with _ | ⟨first, _ | ⟨second, others⟩⟩
  . obtain ⟨rfl, -⟩ := List.cons.inj hsnippets
    exact .inl hfirst
  . obtain ⟨rfl, hspaced⟩ := List.cons.inj hsnippets
    obtain ⟨rfl, -⟩ := List.cons.inj hspaced
    exact .inr ⟨habsent _ List.mem_cons_self, hfirst⟩
  . simp at hsnippets

theorem kinds_of_places {title : String} {limits : Limits} {reading : Except String (List Node)}
    {assessment : Assessment} (h : review markdown title limits reading = .ok assessment)
    {finding : Finding} (hfinding : finding ∈ assessment.findings) {number : Int}
    (hplace : finding.place = .line number) :
    (finding.category = multipleTopHeadings → ∃ line : Nat, number = line
        ∧ FirstLine markdown finding.element (HeadingLine markdown finding.element) line)
      ∧ (finding.category = brokenLink → ∃ label, ∃ line : Nat,
        finding.element = "[" ++ label ++ "]()" ∧ number = line
          ∧ (FirstLine markdown finding.element (LinkLine markdown finding.element) line
            ∨ Absent finding.element markdown
              ∧ FirstLine markdown ("[" ++ label ++ "]( )")
                (LinkLine markdown ("[" ++ label ++ "]( )")) line)) := by
  obtain ⟨forest, hremark⟩ := mem_findings_of_review h hfinding
  constructor
  . intro hcategory
    rw [place_of_topHeading hremark hcategory] at hplace
    exact firstLine_of_locate_title hplace
  . intro hcategory
    obtain ⟨label, helement, hlocate⟩ := place_of_brokenLink hremark hcategory
    rw [hlocate, ← helement] at hplace
    obtain ⟨line, hnumber, hfirst⟩ := firstLine_of_locate_link hplace
    exact ⟨label, line, helement, hnumber, hfirst⟩

def plainDocument : String :=
  "# T\n\n  # U\n\n[a]( )\n"

theorem kinds_of_places_plainDocument :
    ∃ assessment finding,
      review plainDocument "" {} (.ok (readDocument plainDocument)) = .ok assessment
        ∧ finding ∈ assessment.findings ∧ finding.place = .line 3
        ∧ finding.category = multipleTopHeadings
        ∧ ∃ line : Nat, 3 = (line : Int)
          ∧ FirstLine plainDocument finding.element (HeadingLine plainDocument finding.element) line := by
  have h := review_of_levelsComparable plainDocument "" {} (readDocument plainDocument)
    (by decide) (by decide +kernel)
  obtain ⟨finding, hfinding, hplace, hcategory⟩ :
      ∃ finding ∈ (remarks plainDocument {} (readDocument plainDocument)).findings,
        finding.place = .line 3 ∧ finding.category = multipleTopHeadings := by
    decide +kernel
  exact ⟨_, finding, h, hfinding, hplace, hcategory,
    (kinds_of_places h hfinding hplace).1 hcategory⟩

def deeperAbove : String :=
  "## T\n\n# T\n\n# U"

def imageAbove : String :=
  "![a]()\n\n[a]()\n"

theorem heading_and_link_misplaced :
    (∃ assessment, review deeperAbove "" {} (.ok (readDocument deeperAbove)) = .ok assessment
      ∧ (∃ finding ∈ assessment.findings, finding.category = multipleTopHeadings
        ∧ finding.element = "# T" ∧ finding.place = .line 1)
      ∧ ¬ HeadingLine deeperAbove "# T" 1 ∧ HeadingLine deeperAbove "# T" 3)
      ∧ ∃ assessment, review imageAbove "" {} (.ok (readDocument imageAbove)) = .ok assessment
        ∧ (∃ finding ∈ assessment.findings, finding.category = brokenLink
          ∧ finding.element = "[a]()" ∧ finding.place = .line 1)
        ∧ ¬ LinkLine imageAbove "[a]()" 1 ∧ LinkLine imageAbove "[a]()" 3 := by
  constructor
  . have h := review_of_levelsComparable deeperAbove "" {} (readDocument deeperAbove)
      (by decide) (by decide +kernel)
    exact ⟨_, h, by decide +kernel, by decide +kernel, by decide +kernel⟩
  . have h := review_of_levelsComparable imageAbove "" {} (readDocument imageAbove)
      (by decide) (by decide +kernel)
    exact ⟨_, h, by decide +kernel, by decide +kernel, by decide +kernel⟩

end MarkdownIntake.Review
