import MarkdownIntake.Proofs.Markdown.Marks

/-!
This module contains what a heading in one line does to the blocks before it. None of them goes on past
the heading, except for a fence or HTML that is still open there, and for what stands beyond the limit of
nesting and is not read at all.
-/

namespace MarkdownIntake.Markdown

open MarkdownIntake.Document

theorem Container.le_continuationEnd (c : Container) (what : Interrupted) (stop index : Nat) :
    index ≤ c.continuationEnd what stop index := by
  fun_induction c.continuationEnd what stop index with
  | case1 index _ _ ih => exact Nat.le_of_succ_le ih
  | case2 | case3 => exact Nat.le_refl _

theorem Container.le_skipEmpty (c : Container) (index : Nat) : index ≤ c.skipEmpty index := by
  fun_induction c.skipEmpty index with
  | case1 index _ _ ih => exact Nat.le_of_succ_le ih
  | case2 | case3 => exact Nat.le_refl _

/-! ### A heading -/

structure HeadingAt (lines : Array Line) (h : Nat) : Prop where
  indent : (lines.getD h .absent).indent = 0
  heading : (headingLine? (lines.getD h .absent).content).isSome = true
  oneLine : ∀ index < h, '\n' ∉ (lines.getD index .absent).content

theorem eq_cons_of_headingLine? {content : List Char} (h : (headingLine? content).isSome = true) :
    ∃ rest, content = '#' :: rest := by
  obtain ⟨heading, hheading⟩ := Option.isSome_iff_exists.mp h
  cases content with
  | nil => simp [headingLine?, runLength] at hheading
  | cons c rest =>
    refine ⟨rest, ?_⟩
    by_contra hne
    have hc : c ≠ '#' := fun heq => hne (heq ▸ rfl)
    simp [headingLine?, runLength, hc] at hheading

section

variable (rest : List Char)

theorem fenceOpening?_sign : fenceOpening? ('#' :: rest) = none := by
  simp [fenceOpening?]

theorem closedBy_sign {content : List Char} {fence : FenceOpening}
    (h : fenceOpening? content = some fence) : fence.closedBy ('#' :: rest) = false := by
  cases content with
  | nil => cases h
  | cons marker content =>
    rw [fenceOpening?] at h
    split at h
    . next hopening =>
      cases h
      rw [Bool.and_eq_true, Bool.and_eq_true, decide_eq_true_eq] at hopening
      obtain ⟨⟨hmarker, hlength⟩, -⟩ := hopening
      have hne : '#' ≠ marker := by
        rintro rfl
        simp at hmarker
      have hrun : runLength marker ('#' :: rest) = 0 := by
        simp [runLength, hne]
      rw [FenceOpening.closedBy, hrun]
      simp only [Bool.and_eq_false_iff, decide_eq_false_iff_not]
      left
      omega
    . cases h

theorem isThematicBreak_sign : isThematicBreak ('#' :: rest) = false := by
  simp [isThematicBreak]

theorem listMarker?_sign : listMarker? ('#' :: rest) = none := by
  simp [listMarker?, orderedMarker?, bulletMarker?]

theorem underlineLevel?_sign : underlineLevel? ('#' :: rest) = none := by
  simp [underlineLevel?]

theorem blockAt?_sign : HtmlTag.blockAt? ('#' :: rest) = none := rfl

theorem tableHead?_sign (content : List Char) : tableHead? content ('#' :: rest) = none := by
  have hrow : isDelimiterRow ('#' :: rest) = false := by
    cases rest <;> simp [isDelimiterRow]
  simp [tableHead?, columnCount?, hrow]

end

namespace HeadingAt

variable {lines : Array Line} {h : Nat}

theorem set (hh : HeadingAt lines h) {index : Nat} (hindex : index < h) {line : Line}
    (hline : '\n' ∉ line.content) : HeadingAt (lines.setIfInBounds index line) h := by
  have hget (other : Nat) (hne : index ≠ other) :
      (lines.setIfInBounds index line).getD other .absent = lines.getD other .absent := by
    simp [Array.getD_eq_getD_getElem?, hne]
  refine ⟨?_, ?_, ?_⟩
  . rw [hget h hindex.ne]
    exact hh.indent
  . rw [hget h hindex.ne]
    exact hh.heading
  . intro other hother
    by_cases hne : index = other
    . subst hne
      rw [Array.getD_eq_getD_getElem?, Array.getElem?_setIfInBounds, if_pos rfl]
      split
      . exact hline
      . decide
    . rw [hget other hne]
      exact hh.oneLine other hother

end HeadingAt

section

variable {c : Container} {h : Nat} (hh : HeadingAt c.lines h)
include hh

theorem exists_content : ∃ rest, (c.line h).content = '#' :: rest :=
  eq_cons_of_headingLine? hh.heading

theorem isEmpty_line : (c.line h).isEmpty = false := by
  obtain ⟨rest, hcontent⟩ := exists_content hh
  simp [Line.isEmpty, hcontent]

theorem isCode_line : c.isCode (c.line h) = false := by
  have hindent : (c.line h).indent = 0 := hh.indent
  simp only [Container.isCode, Container.codeIndent, hindent]
  exact decide_eq_false (by omega)

theorem isOutside_line : c.isOutside (c.line h) = decide (0 < c.indent) := by
  have hindent : (c.line h).indent = 0 := hh.indent
  simp [Container.isOutside, hindent]

theorem isSome_heading? : (c.heading? (c.line h)).isSome = true := by
  rw [Container.heading?, if_neg (by simp [isCode_line hh])]
  exact hh.heading

theorem interrupts_line {what : Interrupted} (hwhat : what ≠ .list) (stop : Nat) :
    c.interrupts what h stop = true := by
  have hheading := isSome_heading? hh
  cases what with
  | list => exact absurd rfl hwhat
  | paragraph | definition | quote => simp [Container.interrupts, hheading]

theorem goesOn_line {what : Interrupted} (hwhat : what ≠ .list) (stop : Nat) :
    c.goesOn what h stop = false := by
  have hindent : (c.line h).indent = 0 := hh.indent
  simp [Container.goesOn, isCode_line hh, interrupts_line hh hwhat, hindent]

theorem ne_of_isEmpty {index : Nat} (hempty : (c.line index).isEmpty = true) : index ≠ h := by
  rintro rfl
  rw [isEmpty_line hh] at hempty
  cases hempty

theorem ne_of_isCode {index : Nat} (hcode : c.isCode (c.line index) = true) : index ≠ h := by
  rintro rfl
  rw [isCode_line hh] at hcode
  cases hcode

theorem ne_of_goesOn {what : Interrupted} (hwhat : what ≠ .list) {stop index : Nat}
    (hgoes : c.goesOn what index stop = true) : index ≠ h := by
  rintro rfl
  rw [goesOn_line hh hwhat] at hgoes
  cases hgoes

/-! ### Lines up to the heading -/

theorem continuationEnd_le {what : Interrupted} (hwhat : what ≠ .list) (stop : Nat) {index : Nat}
    (hindex : index ≤ h) : c.continuationEnd what stop index ≤ h := by
  fun_induction c.continuationEnd what stop index with
  | case1 index hstop hgoes ih => exact ih (Nat.lt_of_le_of_ne hindex (ne_of_goesOn hh hwhat hgoes))
  | case2 | case3 => exact hindex

theorem skipEmpty_le {index : Nat} (hindex : index ≤ h) : c.skipEmpty index ≤ h := by
  fun_induction c.skipEmpty index with
  | case1 index hlimit hempty ih => exact ih (Nat.lt_of_le_of_ne hindex (ne_of_isEmpty hh hempty))
  | case2 | case3 => exact hindex

theorem pastEmpty_le (stop : Nat) {index : Nat} (hindex : index ≤ h) : c.pastEmpty stop index ≤ h := by
  unfold Container.pastEmpty
  split
  . next hempty =>
    rw [Bool.and_eq_true] at hempty
    exact Nat.lt_of_le_of_ne hindex (ne_of_isEmpty hh hempty.2)
  . exact hindex

theorem codeEnd_le (stop : Nat) {index last : Nat} (hindex : index ≤ h) (hlast : last ≤ h) :
    codeEnd c stop index last ≤ h := by
  fun_induction codeEnd c stop index last with
  | case1 index last hstop line hempty ih =>
    exact ih (Nat.lt_of_le_of_ne hindex (ne_of_isEmpty hh hempty)) hlast
  | case2 index last hstop line hempty hcode ih =>
    have hnext : index < h := Nat.lt_of_le_of_ne hindex (ne_of_isCode hh hcode)
    exact ih hnext hnext
  | case3 | case4 => exact hlast

theorem underline?_lt {stop index last level : Nat} (hindex : index ≤ h)
    (hunderline : underline? c stop index = some (last, level)) : last < h := by
  fun_induction underline? c stop index with
  | case1 => cases hunderline
  | case2 index hstop line hempty hcode ih =>
    exact ih (Nat.lt_of_le_of_ne hindex (ne_of_isCode hh hcode)) hunderline
  | case3 index hstop line hempty hcode level? found hlevel =>
    cases hunderline
    obtain ⟨rest, hcontent⟩ := exists_content hh
    refine Nat.lt_of_le_of_ne hindex ?_
    rintro rfl
    simp [level?, line, hcontent, underlineLevel?_sign] at hlevel
  | case4 index hstop line hempty hcode level? hlevel hgoes ih =>
    exact ih (Nat.lt_of_le_of_ne hindex (ne_of_goesOn hh (by decide) hgoes)) hunderline
  | case5 | case6 => cases hunderline

theorem bodyRows_le (stop count : Nat) {index : Nat} (missing : Int) (hindex : index ≤ h) :
    (bodyRows c stop count index missing).2 ≤ h := by
  fun_induction bodyRows c stop count index missing with
  | case1 | case2 | case4 => exact hindex
  | case3 index missing hstop line hends cells more hmissing rows last hrows ih =>
    rw [hrows] at ih
    apply ih
    refine Nat.lt_of_le_of_ne hindex ?_
    rintro rfl
    simp [interrupts_line hh] at hends

end

/-! ### Blocks that are open at the heading -/

/-- A fence or a block of HTML starts before a line and does not end before it. -/
inductive OpenAt (c : Container) (h : Nat) : Prop where
  | fence {start : Nat} {fence : FenceOpening} (hstart : start < h)
    (hfence : c.fenceStart? (c.line start) = some fence)
    (hbetween : ∀ index, start < index → index < h → c.isCode (c.line index) = false →
      fence.closedBy (c.line index).content = false)
  | html {start : Nat} {block : HtmlTag.Block} (hstart : start < h)
    (hblock : c.htmlStart? (c.line start) = some block)
    (hbetween : ∀ index, start ≤ index → index < h → block.endsAt (c.line index).content = false)

def Beyond (c : Container) (stop h : Nat) : Prop :=
  0 < c.indent ∨ stop ≤ h

section

variable {c : Container} {h : Nat} (hh : HeadingAt c.lines h)
include hh

theorem not_beyond {stop : Nat} (hstop : h < stop) (houtside : c.isOutside (c.line h) = false) :
    ¬ Beyond c stop h := by
  rw [isOutside_line hh, decide_eq_false_iff_not] at houtside
  rintro (hindent | hle)
  . exact houtside hindent
  . omega

theorem fenceEnd_le {fence : FenceOpening} (hclosed : fence.closedBy (c.line h).content = false)
    (stop : Nat) {index : Nat} (hindex : index ≤ h) :
    (if (fenceEnd c fence stop index).2 then (fenceEnd c fence stop index).1 + 1
      else (fenceEnd c fence stop index).1) ≤ h
      ∨ ¬ Beyond c stop h ∧ ∀ other, index ≤ other → other < h → c.isCode (c.line other) = false →
        fence.closedBy (c.line other).content = false := by
  fun_induction fenceEnd c fence stop index with
  | case1 | case2 => exact .inl hindex
  | case3 index hstop line houtside hempty hends =>
    have hne : index ≠ h := by
      rintro rfl
      simp [line, hclosed] at hends
    exact .inl (Nat.lt_of_le_of_ne hindex hne)
  | case4 index hstop line houtside hempty hends ih =>
    by_cases hnext : index = h
    . subst hnext
      have hinside : c.isOutside (c.line index) = false := by
        simpa [line, isEmpty_line hh] using houtside
      exact .inr ⟨not_beyond hh hstop hinside, fun other hle hlt => absurd hlt (Nat.not_lt.mpr hle)⟩
    . rcases ih (Nat.lt_of_le_of_ne hindex hnext) with hle | ⟨hbeyond, hbetween⟩
      . exact .inl hle
      . refine .inr ⟨hbeyond, fun other hle hlt hcode => ?_⟩
        rcases Nat.eq_or_lt_of_le hle with rfl | hlt'
        . simpa [line, hcode] using hends
        . exact hbetween other hlt' hlt hcode
  | case5 index hstop =>
    rw [if_neg Bool.false_ne_true]
    exact .inl (max_le hindex (by omega))

theorem htmlEnd_le {block : HtmlTag.Block} (stop : Nat) {index : Nat} (hindex : index ≤ h) :
    htmlEnd c block stop index ≤ h
      ∨ ¬ Beyond c stop h ∧ ∀ other, index ≤ other → other < h →
        block.endsAt (c.line other).content = false := by
  fun_induction htmlEnd c block stop index with
  | case1 => exact .inl hindex
  | case2 index hstop line houtside hends hempty => exact .inl hindex
  | case3 index hstop line houtside hends hempty =>
    by_cases hnext : index = h
    . subst hnext
      have hinside : c.isOutside (c.line index) = false := by
        simpa [line, isEmpty_line hh] using houtside
      exact .inr ⟨not_beyond hh hstop hinside, fun other hle hlt => absurd hlt (Nat.not_lt.mpr hle)⟩
    . exact .inl (Nat.lt_of_le_of_ne hindex hnext)
  | case4 index hstop line houtside hends ih =>
    by_cases hnext : index = h
    . subst hnext
      have hinside : c.isOutside (c.line index) = false := by
        simpa [line, isEmpty_line hh] using houtside
      exact .inr ⟨not_beyond hh hstop hinside, fun other hle hlt => absurd hlt (Nat.not_lt.mpr hle)⟩
    . rcases ih (Nat.lt_of_le_of_ne hindex hnext) with hle | ⟨hbeyond, hbetween⟩
      . exact .inl hle
      . refine .inr ⟨hbeyond, fun other hle hlt => ?_⟩
        rcases Nat.eq_or_lt_of_le hle with rfl | hlt'
        . simpa using hends
        . exact hbetween other hlt' hlt
  | case5 index hstop => exact .inl (max_le hindex (by omega))

end

/-! ### Quotes -/

theorem suffix_content_unquoted (line : Line) : line.unquoted.content <:+ line.content := by
  have hrest : line.content.drop 1 <:+ line.content := List.drop_suffix 1 _
  have htail {c : Char} {text : List Char} (h : line.content.drop 1 = c :: text) :
      text <:+ line.content := by
    rw [h] at hrest
    exact (List.suffix_cons c text).trans hrest
  unfold Line.unquoted Line.content
  dsimp only
  split
  . next h => exact (List.drop_suffix _ _).trans (htail h)
  . next h =>
    split
    . exact (List.drop_suffix _ _).trans (htail h)
    . exact (List.drop_suffix _ _).trans hrest
  . exact (List.drop_suffix _ _).trans hrest

section

variable {c : Container} {h : Nat} (hh : HeadingAt c.lines h)
include hh

theorem quoteLines_spec (stop : Nat) {index : Nat} (hindex : index ≤ h) (afterEmpty : Bool)
    {lines : Array Line} (hlines : HeadingAt lines h) :
    (quoteLines c stop index afterEmpty lines).stop ≤ h
      ∧ HeadingAt (quoteLines c stop index afterEmpty lines).lines h := by
  fun_induction quoteLines c stop index afterEmpty lines with
  | case1 | case3 | case4 => exact ⟨hindex, hlines⟩
  | case2 index afterEmpty lines hstop line hempty hquote inner ih =>
    have hne : index ≠ h := by
      rintro rfl
      obtain ⟨rest, hcontent⟩ := exists_content hh
      simp [line, hcontent] at hquote
    have hlt : index < h := Nat.lt_of_le_of_ne hindex hne
    have hfeed : '\n' ∉ inner.content := fun hmem =>
      hh.oneLine index hlt ((suffix_content_unquoted line).subset hmem)
    exact ih hlt (hlines.set hlt hfeed)
  | case5 index afterEmpty lines hstop line hempty hquote hafter hinterrupts ih =>
    have hne : index ≠ h := by
      rintro rfl
      simp [interrupts_line hh] at hinterrupts
    have hlt : index < h := Nat.lt_of_le_of_ne hindex hne
    exact ih hlt (hlines.set hlt (hh.oneLine index hlt))
  | case6 index afterEmpty lines hstop => exact ⟨max_le hindex (by omega), hlines⟩

end

end MarkdownIntake.Markdown
