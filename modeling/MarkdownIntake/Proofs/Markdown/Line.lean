import MarkdownIntake.Markdown.BlockStart
import MarkdownIntake.Markdown.Line
import MarkdownIntake.Proofs.Text.Lines

/-!
This module contains the lines of a document before and after the start of a line: they are those of the
text above and those of the text from there on.
-/

namespace MarkdownIntake.Markdown

open MarkdownIntake.Text

theorem uniformText_cons {c : Char} {cs : List Char} (h : c = '\r' → cs.head? ≠ some '\n') :
    uniformText (c :: cs)
      =
    (if c = '\r' then '\n' else if c.toNat = 0 then '\uFFFD' else c) :: uniformText cs := by
  rw [uniformText]
  rintro rest rfl rfl
  exact h rfl rfl

theorem uniformText_append {before : List Char} (h : EndsLine before) (rest : List Char) :
    uniformText (before ++ rest) = uniformText before ++ uniformText rest := by
  fun_induction uniformText before with
  | case1 => rfl
  | case2 before ih =>
    rw [List.cons_append, List.cons_append, uniformText, ih h.of_cons.1.of_cons.1]
    rfl
  | case3 c before hne ih =>
    obtain ⟨hbefore, hlast⟩ := h.of_cons
    rw [List.cons_append, uniformText_cons, ih hbefore]
    . rfl
    . rintro rfl hhead
      cases before with
      | nil => exact absurd (hlast rfl) (by decide)
      | cons d before =>
        rw [List.cons_append, List.head?_cons, Option.some.injEq] at hhead
        exact hne before rfl (by rw [hhead])

theorem uniformText_eq_nil_iff {cs : List Char} : uniformText cs = [] ↔ cs = [] := by
  unfold uniformText
  split <;> simp

theorem endsLine_uniformText {before : List Char} (h : EndsLine before) :
    EndsLine (uniformText before) := by
  fun_induction uniformText before with
  | case1 => exact .inl rfl
  | case2 before ih => exact (ih h.of_cons.1.of_cons.1).cons fun _ => rfl
  | case3 c before hne ih =>
    obtain ⟨hbefore, hlast⟩ := h.of_cons
    apply (ih hbefore).cons
    intro hnil
    rw [hlast (uniformText_eq_nil_iff.mp hnil)]
    rfl

/-! ### Lines of a document -/

theorem go_append {pieces rest : List (List Char)} (hne : rest ≠ []) :
    documentLines.go (pieces ++ rest)
      =
    pieces.map (Line.ofText · true) ++ documentLines.go rest := by
  induction pieces with
  | nil => rfl
  | cons piece pieces ih =>
    rw [List.cons_append, documentLines.go, ih]
    . rfl
    . simp [hne]

theorem documentLines_append {above : List Char} (h : EndsLine above) (rest : List Char) :
    documentLines (above ++ rest) = documentLines above ++ documentLines rest := by
  by_cases hne : above = []
  . subst hne
    rfl
  . obtain ⟨before, rfl⟩ := h.exists_eq hne
    have hrest (rest : List Char) :
        documentLines (before ++ '\n' :: rest)
          =
        (lines before).map (Line.ofText · true) ++ documentLines rest := by
      rw [documentLines, lines, splitAt_append_cons, go_append (splitAt_ne_nil _ _)]
      rfl
    rw [List.append_assoc, List.singleton_append, hrest, hrest]
    simp [documentLines, lines, documentLines.go]

theorem exists_of_mem_go {pieces : List (List Char)} {line : Line} (h : line ∈ documentLines.go pieces) :
    ∃ text ∈ pieces, ∃ terminated, line = .ofText text terminated := by
  fun_induction documentLines.go pieces with
  | case1 | case2 => cases h
  | case3 last => exact ⟨last, List.mem_singleton_self _, false, List.mem_singleton.mp h⟩
  | case4 text rest _ ih =>
    rcases List.mem_cons.mp h with rfl | h
    . exact ⟨text, List.mem_cons_self, true, rfl⟩
    . obtain ⟨other, hother, hline⟩ := ih h
      exact ⟨other, List.mem_cons_of_mem _ hother, hline⟩

theorem not_mem_content {cs : List Char} {line : Line} (h : line ∈ documentLines cs) :
    '\n' ∉ line.content := by
  obtain ⟨text, htext, terminated, rfl⟩ := exists_of_mem_go h
  exact fun hmem => not_mem_of_mem_splitAt htext (List.drop_subset _ _ hmem)

theorem indent_nonneg {cs : List Char} {line : Line} (h : line ∈ documentLines cs) : 0 ≤ line.indent := by
  obtain ⟨text, -, terminated, rfl⟩ := exists_of_mem_go h
  exact Int.natCast_nonneg _

/-! ### A line with a heading -/

theorem level_headingLine?_sign {rest : List Char} (h : rest.head?.all isIndent = true) :
    ∃ heading, headingLine? ('#' :: rest) = some heading ∧ heading.level = 1 := by
  have hrun : runLength '#' ('#' :: rest) = 1 := by
    cases rest with
    | nil => rfl
    | cons c rest =>
      have hc : c ≠ '#' := by
        rintro rfl
        simp [isIndent] at h
      simp [runLength, hc]
  unfold headingLine?
  dsimp only
  rw [hrun, if_pos (by simpa using h)]
  exact ⟨_, rfl, rfl⟩

theorem head?_uniformText {blank : Char} (h : blank ∈ [' ', '\t', '\n', '\r']) (after : List Char) :
    ∃ c ∈ [' ', '\t', '\n'], ∃ rest, uniformText (blank :: after) = c :: rest := by
  by_cases hreturn : blank = '\r' ∧ after.head? = some '\n'
  . obtain ⟨rfl, hhead⟩ := hreturn
    obtain ⟨rest, rfl⟩ := List.head?_eq_some_iff.mp hhead
    exact ⟨'\n', by simp, uniformText rest, by rw [uniformText]⟩
  . rw [uniformText_cons fun heq hhead => hreturn ⟨heq, hhead⟩]
    refine ⟨_, ?_, _, rfl⟩
    simp only [List.mem_cons, List.not_mem_nil, or_false] at h
    rcases h with rfl | rfl | rfl | rfl <;> decide

theorem exists_go_cons {text : List Char} (h : text.all isIndent = false) (rest : List (List Char)) :
    ∃ terminated more, documentLines.go (text :: rest) = .ofText text terminated :: more := by
  cases rest with
  | nil => exact ⟨false, [], by simp [documentLines.go, h]⟩
  | cons second rest => exact ⟨true, _, rfl⟩

theorem exists_documentLines_sign {blank : Char} (h : blank ∈ [' ', '\t', '\n', '\r'])
    (after : List Char) :
    ∃ text terminated rest, documentLines (uniformText ('#' :: blank :: after))
        = .ofText ('#' :: text) terminated :: rest
      ∧ text.head?.all isIndent = true := by
  obtain ⟨c, hc, below, hbelow⟩ := head?_uniformText h after
  obtain ⟨text, pieces, hpieces, htext⟩ :
      ∃ text pieces, lines (c :: below) = text :: pieces ∧ text.head?.all isIndent = true := by
    by_cases hfeed : c = '\n'
    . exact ⟨[], lines below, by rw [lines, splitAt_cons, if_pos hfeed]; rfl, rfl⟩
    . obtain ⟨first, rest, hfirst⟩ := List.exists_cons_of_ne_nil (splitAt_ne_nil '\n' below)
      refine ⟨c :: first, rest, by rw [lines, splitAt_cons, if_neg hfeed, hfirst]; rfl, ?_⟩
      simp only [List.mem_cons, List.not_mem_nil, or_false, hfeed] at hc
      rcases hc with rfl | rfl <;> rfl
  have hsign : ('#' :: text).all isIndent = false := by simp [isIndent]
  obtain ⟨terminated, rest, hgo⟩ := exists_go_cons hsign pieces
  refine ⟨text, terminated, rest, ?_, htext⟩
  rw [uniformText_cons (by simp), hbelow, documentLines, lines, splitAt_cons, if_neg (by decide)]
  rw [lines] at hpieces
  rw [hpieces]
  exact hgo

end MarkdownIntake.Markdown
