import MarkdownIntake.Proofs.Markdown.Barrier
import MarkdownIntake.Proofs.Markdown.Definition

/-!
This module contains the readers of blocks that start above a heading: what follows is read from the
heading on, or from a line above it.
-/

namespace MarkdownIntake.Markdown

open MarkdownIntake.Document

/-! ### Nesting -/

def Progress.level (s : Progress) : Nat :=
  levelAfter 0 s.marks.toList

def TooDeep (s : Progress) : Prop :=
  ∃ start, start <+: s.marks.toList ∧ maxNesting ≤ levelAfter 0 start

theorem Adds.level_eq {s later : Progress} (h : Adds s later) : later.level = s.level := by
  obtain ⟨added, hsound, hmarks⟩ := h
  rw [Progress.level, hmarks, levelAfter_append, hsound.balanced, Progress.level]

theorem level_add_opening (s : Progress) (kind tag markup : String) :
    (s.add [opening kind tag markup]).level = s.level + 1 := by
  simp [Progress.level, Progress.add, levelAfter_append, levelAfter_cons, Mark.levelAfter, Mark.opensBlock,
    opening]

@[simp]
theorem next_add (s : Progress) (marks : List Mark) : (s.add marks).next = s.next := rfl

theorem tooDeep_of_level {s : Progress} (h : maxNesting ≤ s.level) : TooDeep s :=
  ⟨s.marks.toList, List.prefix_rfl, h⟩

theorem TooDeep.add {s : Progress} (h : TooDeep s) (marks : List Mark) : TooDeep (s.add marks) := by
  obtain ⟨start, hstart, hlevel⟩ := h
  refine ⟨start, hstart.trans ?_, hlevel⟩
  simp [Progress.add]

theorem TooDeep.adds {s later : Progress} (h : TooDeep s) (hadds : Adds s later) : TooDeep later := by
  obtain ⟨start, hstart, hlevel⟩ := h
  obtain ⟨added, -, hmarks⟩ := hadds
  refine ⟨start, hstart.trans ?_, hlevel⟩
  rw [hmarks]
  exact List.prefix_append _ _

/-! ### Readers -/

/-- What was read ends before the line of a heading, or there is a reason why it does not. -/
def Arrives (c : Container) (stop h : Nat) (later : Progress) : Prop :=
  later.next ≤ h ∨ TooDeep later ∨ ¬ Beyond c stop h ∧ OpenAt c h

def Reader.Stays (reader : Reader) (room : Nat) : Prop :=
  ∀ (c : Container) {stop h : Nat} (s : Progress), HeadingAt c.lines h → Beyond c stop h → s.next ≤ h →
    maxNesting ≤ s.level + room → (reader c stop s).next ≤ h ∨ TooDeep (reader c stop s)

theorem length_listMarker? {content : List Char} {marker : ListMarker}
    (h : listMarker? content = some marker) : 0 < marker.length := by
  rw [listMarker?, Option.or_eq_some_iff] at h
  rcases h with h | ⟨-, h⟩
  . unfold orderedMarker? at h
    dsimp only at h
    split at h
    . cases h
    . split at h
      . cases h
        exact Nat.succ_pos _
      . cases h
  . unfold bulletMarker? at h
    split at h
    . cases h
    . split at h
      . cases h
        exact Nat.succ_pos _
      . cases h

section

variable {c : Container} {stop h : Nat} {s later : Progress} (hnext : s.next < h)
include hnext

theorem arrives_readBreak? (hlater : readBreak? c stop s = some later) : Arrives c stop h later := by
  unfold readBreak? at hlater
  dsimp only at hlater
  split at hlater
  . cases hlater
    exact .inl hnext
  . cases hlater

theorem arrives_readHeading? (hlater : readHeading? c stop s = some later) : Arrives c stop h later := by
  unfold readHeading? at hlater
  split at hlater
  . cases hlater
  . cases hlater
    exact .inl hnext

variable (hh : HeadingAt c.lines h)
include hh

theorem arrives_readTable? (hlater : readTable? c stop s = some later) : Arrives c stop h later := by
  unfold readTable? at hlater
  split at hlater
  . cases hlater
  . next head hhead =>
    cases hlater
    have hne : s.next + 1 ≠ h := by
      rintro rfl
      obtain ⟨rest, hcontent⟩ := exists_content hh
      unfold Container.tableStart? at hhead
      dsimp only at hhead
      rw [hcontent, tableHead?_sign] at hhead
      split at hhead <;> cases hhead
    exact .inl (bodyRows_le hh stop head.length 0 (by omega))

theorem arrives_readCode? (hlater : readCode? c stop s = some later) : Arrives c stop h later := by
  unfold readCode? at hlater
  split at hlater
  . cases hlater
    exact .inl (codeEnd_le hh stop hnext hnext)
  . cases hlater

theorem arrives_readFence? (hlater : readFence? c stop s = some later) : Arrives c stop h later := by
  unfold readFence? at hlater
  dsimp only at hlater
  split at hlater
  . cases hlater
  . next fence hfence =>
    cases hlater
    have hopening : fenceOpening? (c.line s.next).content = some fence := by
      unfold Container.fenceStart? at hfence
      split at hfence
      . cases hfence
      . exact hfence
    obtain ⟨rest, hcontent⟩ := exists_content hh
    have hclosed : fence.closedBy (c.line h).content = false := by
      rw [hcontent]
      exact closedBy_sign rest hopening
    rcases fenceEnd_le hh hclosed stop hnext with hle | ⟨hbeyond, hbetween⟩
    . exact .inl hle
    . exact .inr (.inr ⟨hbeyond, .fence hnext hfence hbetween⟩)

theorem arrives_readHtml? (hlater : readHtml? c stop s = some later) : Arrives c stop h later := by
  unfold readHtml? at hlater
  dsimp only at hlater
  split at hlater
  . cases hlater
  . next block hblock =>
    cases hlater
    by_cases hends : block.endsAt (c.line s.next).content
    . rw [if_pos hends]
      exact .inl hnext
    . rw [if_neg hends]
      rcases htmlEnd_le hh stop hnext with hle | ⟨hbeyond, hbetween⟩
      . exact .inl hle
      . refine .inr (.inr ⟨hbeyond, .html hnext hblock fun index hle hlt => ?_⟩)
        rcases Nat.eq_or_lt_of_le hle with rfl | hlt'
        . simpa using hends
        . exact hbetween index hlt' hlt

theorem arrives_readUnderlined? (hlater : readUnderlined? c stop s = some later) :
    Arrives c stop h later := by
  unfold readUnderlined? at hlater
  split at hlater
  . cases hlater
  . split at hlater
    . cases hlater
    . next hunderline =>
      cases hlater
      exact .inl (underline?_lt hh hnext hunderline)

theorem arrives_readParagraph : Arrives c stop h (readParagraph c s) :=
  .inl (continuationEnd_le hh (by decide) c.limit hnext)

theorem arrives_readDefinition? (hlater : readDefinition? c stop s = some later) :
    Arrives c stop h later := by
  unfold readDefinition? at hlater
  dsimp only at hlater
  split at hlater
  . split at hlater
    . cases hlater
    . next found hfound =>
      cases hlater
      have hkind : Interrupted.definition ≠ .list := by decide
      have hle : c.continuationEnd .definition c.limit (s.next + 1) ≤ h :=
        continuationEnd_le hh hkind c.limit hnext
      have hlt : s.next < c.continuationEnd .definition c.limit (s.next + 1) :=
        c.le_continuationEnd .definition c.limit (s.next + 1)
      have hlines := lineCount_definition? hfound
      have hcount := Container.count_dropLast_contentOf hlt fun index hindex =>
        hh.oneLine index (Nat.lt_of_lt_of_le hindex hle)
      refine .inl ?_
      dsimp only
      omega
  . cases hlater

theorem arrives_readQuote? {inner : Reader} {room : Nat} (hinner : inner.Stays room)
    (hroom : maxNesting ≤ s.level + 1 + room) (hlater : readQuote? inner c stop s = some later) :
    Arrives c stop h later := by
  unfold readQuote? at hlater
  dsimp only at hlater
  split at hlater
  . cases hlater
    have hfeed : '\n' ∉ (c.line s.next).unquoted.content := fun hmem =>
      hh.oneLine s.next hnext ((suffix_content_unquoted _).subset hmem)
    have hlines := quoteLines_spec hh stop hnext (c.line s.next).unquoted.isEmpty (hh.set hnext hfeed)
    change (quoteLines c stop (s.next + 1) _ _).stop ≤ h ∧ _ at hlines
    generalize quoteLines c stop (s.next + 1) _ _ = quote at hlines ⊢
    have hread := hinner
      { c with
        lines := quote.lines
        indent := 0
        limit := if quote.interrupted then quote.stop else c.limit }
      (s.add [opening "blockquote" "blockquote" ">"]) hlines.2 (.inr hlines.1) hnext.le
      (by rwa [level_add_opening])
    rcases hread with hle | hdeep
    . exact .inl hle
    . exact .inr (.inl (hdeep.add _))
  . cases hlater

theorem readItem_le {inner : Reader} {room : Nat} (hinner : inner.Stays room)
    (hroom : maxNesting ≤ s.level + 1 + room) {marker : ListMarker} (hmarker : 0 < marker.length) :
    (readItem inner c stop marker s).next ≤ h ∨ TooDeep (readItem inner c stop marker s) := by
  unfold readItem
  dsimp only
  split
  . next hblank =>
    rw [Bool.and_eq_true] at hblank
    have hne := ne_of_isEmpty hh hblank.2
    refine .inl (Nat.le_trans (Nat.min_le_left ..) ?_)
    change s.next + 1 ≠ h at hne
    change s.next + 2 ≤ h
    omega
  . rw [next_add]
    refine (hinner _ (s.add [opening "list_item" "li" marker.char.toString]) (hh.set hnext ?_) (.inl ?_)
      hnext.le ?_).imp_right (TooDeep.add · _)
    . intro hmem
      apply hh.oneLine s.next hnext
      change _ ∈ ((c.line s.next).text.drop _) at hmem
      rw [Nat.add_assoc, ← List.drop_drop] at hmem
      exact List.drop_subset _ _ hmem
    . change 0 < _ + marker.length + _
      omega
    . rwa [level_add_opening]

end

theorem readItems_le {inner : Reader} {room : Nat} (hadds : inner.Adds) (hinner : inner.Stays room)
    {c : Container} {stop h : Nat} {s : Progress} (hnext : s.next < h) (hh : HeadingAt c.lines h)
    (hroom : maxNesting ≤ s.level + 1 + room) {marker : ListMarker} (hmarker : 0 < marker.length) :
    (readItems inner c stop marker s).next ≤ h ∨ TooDeep (readItems inner c stop marker s) := by
  have hitem : (readItem inner c stop marker s).next ≤ h ∨ TooDeep (readItem inner c stop marker s) :=
    readItem_le hnext hh hinner hroom hmarker
  have hitemAdds := adds_readItem hadds c stop marker s
  unfold readItems
  dsimp only
  split
  . next hlater =>
    split
    . exact hitem
    . split
      . exact hitem
      . next following hfollowing =>
        split
        . rcases hitem with hle | hdeep
          . have hne : (readItem inner c stop marker s).next ≠ h := by
              intro heq
              obtain ⟨rest, hcontent⟩ := exists_content hh
              rw [heq, hcontent, listMarker?_sign] at hfollowing
              cases hfollowing
            apply readItems_le hadds hinner (Nat.lt_of_le_of_ne hle hne) hh
            . rwa [hitemAdds.level_eq]
            . exact length_listMarker? hfollowing
          . exact .inr (hdeep.adds (adds_readItems hadds c stop following _))
        . exact hitem
  . exact hitem
termination_by stop - s.next
decreasing_by omega

section

variable {c : Container} {stop h : Nat} {s later : Progress} (hnext : s.next < h)
  (hh : HeadingAt c.lines h)
include hnext hh

theorem arrives_readList? {inner : Reader} {room : Nat} (hadds : inner.Adds)
    (hinner : inner.Stays room) (hroom : maxNesting ≤ s.level + 2 + room)
    (hlater : readList? inner c stop s = some later) : Arrives c stop h later := by
  unfold readList? at hlater
  split at hlater
  . cases hlater
  . next marker hmarker =>
    cases hlater
    have hlength : 0 < marker.length := by
      unfold Container.listStart? at hmarker
      dsimp only at hmarker
      split at hmarker
      . cases hmarker
      . exact length_listMarker? hmarker
    dsimp only
    generalize hs : s.add [opening _ _ _] = first
    have hfirst : first.next < h := hs ▸ hnext
    have hlevel : maxNesting ≤ first.level + 1 + room := by
      rw [← hs, level_add_opening]
      omega
    rcases readItems_le hadds hinner hfirst hh hlevel hlength with hle | hdeep
    . exact .inl hle
    . exact .inr (.inl (hdeep.add _))

theorem arrives_readBlock {quote item : Reader} {quoteRoom itemRoom : Nat}
    (hquote : quote.Stays quoteRoom) (hitem : item.Stays itemRoom) (hadds : item.Adds)
    (hquoteRoom : maxNesting ≤ s.level + 1 + quoteRoom)
    (hitemRoom : maxNesting ≤ s.level + 2 + itemRoom) :
    Arrives c stop h (readBlock quote item c stop s) := by
  apply readBlock_cases
  . simp only [List.forall_mem_cons]
    exact ⟨fun _ => arrives_readTable? hnext hh, fun _ => arrives_readCode? hnext hh,
      fun _ => arrives_readFence? hnext hh, fun _ => arrives_readQuote? hnext hh hquote hquoteRoom,
      fun _ => arrives_readBreak? hnext, fun _ => arrives_readList? hnext hh hadds hitem hitemRoom,
      fun _ => arrives_readDefinition? hnext hh, fun _ => arrives_readHtml? hnext hh,
      fun _ => arrives_readHeading? hnext, fun _ => arrives_readUnderlined? hnext hh, nofun⟩
  . exact arrives_readParagraph hnext hh

end

/-! ### Containers beyond the heading -/

theorem stays_readBlocks_none : Reader.Stays (readBlocks none) 0 := by
  intro c stop h s hh hbeyond hnext hroom
  unfold readBlocks
  split
  . dsimp only
    split
    . exact .inl (skipEmpty_le hh hnext)
    . exact .inr (tooDeep_of_level hroom)
  . exact .inl hnext

theorem stays_readBlocks {quote item : Reader} {quoteRoom itemRoom room : Nat}
    (hquote : quote.Stays quoteRoom) (hitem : item.Stays itemRoom) (hquoteAdds : quote.Adds)
    (hitemAdds : item.Adds) (hquoteRoom : room ≤ quoteRoom + 1) (hitemRoom : room ≤ itemRoom + 2) :
    Reader.Stays (readBlocks (some (quote, item))) room := by
  intro c stop h s hh hbeyond hnext hroom
  have hadds : Reader.Adds (readBlocks (some (quote, item))) :=
    adds_readBlocks_some hquoteAdds hitemAdds
  generalize hnested : (some (quote, item) : Nested) = nested at hadds ⊢
  fun_induction readBlocks nested c stop s with
  | case1 s hstop next hends => exact .inl (skipEmpty_le hh hnext)
  | case2 s hstop next hends hnone =>
    rw [hnone] at hnested
    cases hnested
  | case3 s hstop next hends first second hreaders after ih =>
    subst hreaders
    cases hnested
    have hle : next ≤ h := skipEmpty_le hh hnext
    have hfirst : s.next ≤ next := c.le_skipEmpty s.next
    rw [Bool.or_eq_true, not_or, decide_eq_true_eq, Bool.not_eq_true] at hends
    have hlt : next < h := by
      refine Nat.lt_of_le_of_ne hle ?_
      rintro rfl
      exact not_beyond hh (Nat.not_le.mp hends.1) hends.2 hbeyond
    have hlevel : after.level = s.level :=
      (adds_readBlock hquoteAdds hitemAdds c stop (s.goTo next)).level_eq
    have hafter : Arrives c stop h after :=
      arrives_readBlock (s := s.goTo next) hlt hh hquote hitem hitemAdds
        (by change maxNesting ≤ s.level + 1 + quoteRoom; omega)
        (by change maxNesting ≤ s.level + 2 + itemRoom; omega)
    rcases hafter with hle | hdeep | ⟨hnot, -⟩
    . apply ih (pastEmpty_le hh stop (max_le hle (by omega)))
      change maxNesting ≤ after.level + room
      rwa [hlevel]
    . exact .inr (TooDeep.adds hdeep (hadds c stop (after.goTo _)))
    . exact absurd hbeyond hnot
  | case4 => exact .inl hnext

theorem stays_reader : ∀ room : Nat, (reader room).Stays room
  | 0 => stays_readBlocks_none
  | 1 =>
    stays_readBlocks (stays_reader 0) (stays_reader 0) (adds_reader 0) (adds_reader 0) (by omega)
      (by omega)
  | room + 2 =>
    stays_readBlocks (stays_reader (room + 1)) (stays_reader room) (adds_reader (room + 1))
      (adds_reader room) (by omega) (by omega)

end MarkdownIntake.Markdown
