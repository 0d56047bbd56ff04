import MarkdownIntake.Markdown.Reading
import MarkdownIntake.Proofs.Markdown.Passage

/-!
This module contains the reading of a document that has a heading of the first level at the start of a
line. Unless the line stands in another block, the heading is read as such at the top of the tree.
-/

namespace MarkdownIntake.Markdown

open MarkdownIntake.Document

def HasTopHeading (marks : List Mark) : Prop :=
  ∃ before text after, marks = before ++ headingMarks 1 text ++ after ∧ levelAfter 0 before = 0

section

variable {c : Container} {stop h : Nat} (hh : HeadingAt c.lines h)
include hh

theorem readBlock_heading {heading : HeadingLine} (hheading : headingLine? (c.line h).content = some heading)
    (htable : c.tableStart? h stop = none) (quote item : Reader) {s : Progress} (hnext : s.next = h) :
    readBlock quote item c stop s
      =
    (s.add (headingMarks heading.level heading.text)).goTo (h + 1) := by
  obtain ⟨rest, hcontent⟩ := exists_content hh
  have hcode := isCode_line hh
  have hreadTable : readTable? c stop s = none := by rw [readTable?, hnext, htable]
  have hreadCode : readCode? c stop s = none := by rw [readCode?, hnext, hcode]; rfl
  have hreadFence : readFence? c stop s = none := by
    simp [readFence?, hnext, Container.fenceStart?, hcontent, fenceOpening?_sign]
  have hreadQuote : readQuote? quote c stop s = none := by
    simp [readQuote?, hnext, Container.startsQuote, hcontent]
  have hreadBreak : readBreak? c stop s = none := by
    simp [readBreak?, hnext, Container.isBreak, hcontent, isThematicBreak_sign]
  have hreadList : readList? item c stop s = none := by
    simp [readList?, hnext, Container.listStart?, hcontent, listMarker?_sign]
  have hreadDefinition : readDefinition? c stop s = none := by
    simp [readDefinition?, hnext, hcontent]
  have hreadHtml : readHtml? c stop s = none := by
    simp [readHtml?, hnext, Container.htmlStart?, hcontent, blockAt?_sign]
  have hreadHeading : readHeading? c stop s
      = some ((s.add (headingMarks heading.level heading.text)).goTo (h + 1)) := by
    simp [readHeading?, hnext, Container.heading?, hcode, hheading]
  simp [readBlock, hreadTable, hreadCode, hreadFence, hreadQuote, hreadBreak, hreadList, hreadDefinition,
    hreadHtml, hreadHeading]

theorem hasTopHeading_readBlocks {heading : HeadingLine}
    (hheading : headingLine? (c.line h).content = some heading) (hfirst : heading.level = 1)
    (htable : c.tableStart? h stop = none) (hinside : ∀ index, c.isOutside (c.line index) = false)
    (hstop : h < stop) (hopen : ¬ OpenAt c h) {quote item : Reader}
    {quoteRoom itemRoom : Nat} (hquote : quote.Stays quoteRoom) (hitem : item.Stays itemRoom)
    (hquoteAdds : quote.Adds) (hitemAdds : item.Adds) (hquoteRoom : maxNesting ≤ quoteRoom + 1)
    (hitemRoom : maxNesting ≤ itemRoom + 2) {s : Progress} (hlevel : s.level = 0) (hnext : s.next ≤ h) :
    HasTopHeading (readBlocks (some (quote, item)) c stop s).marks.toList
      ∨ TooDeep (readBlocks (some (quote, item)) c stop s) := by
  have hadds : Reader.Adds (readBlocks (some (quote, item))) :=
    adds_readBlocks_some hquoteAdds hitemAdds
  generalize hnested : (some (quote, item) : Nested) = nested at hadds ⊢
  fun_induction readBlocks nested c stop s with
  | case1 s hbefore next hends =>
    have hle : next ≤ h := skipEmpty_le hh hnext
    rw [hinside next, Bool.or_false, decide_eq_true_eq] at hends
    omega
  | case2 s hbefore next hends hnone =>
    rw [hnone] at hnested
    cases hnested
  | case3 s hbefore next hends first second hreaders after ih =>
    subst hreaders
    cases hnested
    have hle : next ≤ h := skipEmpty_le hh hnext
    have hskip : s.next ≤ next := c.le_skipEmpty s.next
    have hafterAdds : Adds (s.goTo next) after := adds_readBlock hquoteAdds hitemAdds c stop (s.goTo next)
    rcases Nat.eq_or_lt_of_le hle with heq | hlt
    . have hafter : after = ((s.goTo next).add (headingMarks heading.level heading.text)).goTo (h + 1) :=
        readBlock_heading hh hheading htable quote item heq
      obtain ⟨added, -, hmarks⟩ :=
        hadds c stop (after.goTo (c.pastEmpty stop (max after.next (s.next + 1))))
      refine .inl ⟨s.marks.toList, heading.text, added, ?_, hlevel⟩
      rw [hmarks, hafter, hfirst]
      simp [Progress.add, Progress.goTo]
    . have hafter : Arrives c stop h after :=
        arrives_readBlock (s := s.goTo next) hlt hh hquote hitem hitemAdds
          (by change maxNesting ≤ s.level + 1 + quoteRoom; omega)
          (by change maxNesting ≤ s.level + 2 + itemRoom; omega)
      rcases hafter with hafterLe | hdeep | ⟨-, hafterOpen⟩
      . exact ih (hafterAdds.level_eq.trans hlevel) (pastEmpty_le hh stop (max_le hafterLe (by omega)))
      . exact .inr (TooDeep.adds hdeep (hadds c stop (after.goTo _)))
      . exact absurd hafterOpen hopen
  | case4 s hbefore => omega

end

end MarkdownIntake.Markdown
