import MarkdownIntake.Markdown.Block
import MarkdownIntake.Proofs.Document.Balance
import Mathlib.Tactic.IntervalCases

/-!
This module contains the marks that the readers of blocks add to those before: each reader closes the
containers that it opens, so the stream of a whole document can be assembled.
-/

namespace MarkdownIntake.Markdown

open MarkdownIntake.Document

/-! ### Marks of blocks -/

def plainKinds : List String :=
  ["blockquote", "bullet_list", "list_item", "ordered_list", "paragraph", "table", "tbody", "td", "th",
    "thead", "tr"]

theorem hasLevel_opening {kind : String} (h : kind ∈ plainKinds) (tag markup : String) :
    (opening kind tag markup).HasLevel := by
  have hkinds : ∀ kind ∈ plainKinds, ({ kind := kind ++ "_open" } : Mark).baseKind ≠ "heading" := by
    decide +kernel
  exact fun hheading => absurd hheading (hkinds kind h)

theorem sound_wrapped {kind tag markup : String} {marks : List Mark}
    (hlevel : (opening kind tag markup).HasLevel) (h : Sound marks) :
    Sound (wrapped kind tag markup marks) :=
  Sound.container rfl rfl hlevel h

theorem sound_plain {kind tag markup : String} {marks : List Mark} (hkind : kind ∈ plainKinds)
    (h : Sound marks) : Sound (wrapped kind tag markup marks) :=
  sound_wrapped (hasLevel_opening hkind tag markup) h

theorem hasLevel_heading {level : Nat} (h : 1 ≤ level ∧ level ≤ 6) :
    (opening "heading" s!"h{level}" "").HasLevel := by
  intro _
  obtain ⟨hmin, hmax⟩ := h
  interval_cases level
  . exact ⟨1, rfl⟩
  . exact ⟨2, rfl⟩
  . exact ⟨3, rfl⟩
  . exact ⟨4, rfl⟩
  . exact ⟨5, rfl⟩
  . exact ⟨6, rfl⟩

theorem sound_headingMarks {level : Nat} (h : 1 ≤ level ∧ level ≤ 6) (text : List Char) :
    Sound (headingMarks level text) :=
  sound_wrapped (hasLevel_heading h) (.leaf rfl)

theorem level_headingLine? {content : List Char} {heading : HeadingLine}
    (h : headingLine? content = some heading) : 1 ≤ heading.level ∧ heading.level ≤ 6 := by
  unfold headingLine? at h
  dsimp only at h
  split at h
  . next hlevel =>
    rw [Bool.and_eq_true, Bool.and_eq_true, decide_eq_true_eq, decide_eq_true_eq] at hlevel
    rw [Option.some.injEq] at h
    exact h ▸ hlevel.1
  . cases h

theorem level_underlineLevel? {content : List Char} {level : Nat}
    (h : underlineLevel? content = some level) : 1 ≤ level ∧ level ≤ 6 := by
  unfold underlineLevel? at h
  split at h
  . cases h
  . split at h
    . rw [Option.some.injEq] at h
      split at h <;> omega
    . cases h

theorem level_underline? (c : Container) {stop index last level : Nat}
    (h : underline? c stop index = some (last, level)) : 1 ≤ level ∧ level ≤ 6 := by
  unfold underline? at h
  split at h
  . dsimp only at h
    split at h
    . cases h
    . split at h
      . exact level_underline? c h
      . split at h
        . next hlevel =>
          rw [Option.some.injEq, Prod.mk.injEq] at h
          split at hlevel
          . cases hlevel
          . exact h.2 ▸ level_underlineLevel? hlevel
        . split at h
          . exact level_underline? c h
          . cases h
  . cases h
termination_by stop - index

theorem sound_rowMarks {kind : String} (h : kind ∈ plainKinds) (tag : String)
    (cells : List (List Char)) : Sound (rowMarks kind tag cells) := by
  apply sound_plain (by simp [plainKinds])
  apply Sound.flatMap
  intro cell _
  exact sound_plain h (.leaf rfl)

/-! ### Readers -/

def Adds (s later : Progress) : Prop :=
  ∃ added, Sound added ∧ later.marks.toList = s.marks.toList ++ added

namespace Adds

variable {s later last : Progress}

protected theorem refl (s : Progress) : Adds s s :=
  ⟨[], .nil, (List.append_nil _).symm⟩

protected theorem trans (h : Adds s later) (hlater : Adds later last) : Adds s last := by
  obtain ⟨added, hsound, hmarks⟩ := h
  obtain ⟨more, hmore, hlast⟩ := hlater
  exact ⟨added ++ more, hsound.append hmore, by rw [hlast, hmarks, List.append_assoc]⟩

theorem add {marks : List Mark} (h : Sound marks) (s : Progress) : Adds s (s.add marks) :=
  ⟨marks, h, by simp [Progress.add]⟩

theorem wrap {kind tag markup : String} (hlevel : (opening kind tag markup).HasLevel)
    (h : Adds (s.add [opening kind tag markup]) later) :
    Adds s (later.add [closing kind tag markup]) := by
  obtain ⟨added, hsound, hmarks⟩ := h
  refine ⟨wrapped kind tag markup added, sound_wrapped hlevel hsound, ?_⟩
  simp [Progress.add, hmarks, wrapped]

end Adds

def Reader.Adds (reader : Reader) : Prop :=
  ∀ c stop s, Markdown.Adds s (reader c stop s)

def BlockReader.Adds (reader : BlockReader) : Prop :=
  ∀ {c stop s later}, reader c stop s = some later → Markdown.Adds s later

theorem adds_readTable? : BlockReader.Adds readTable? := by
  intro c stop s later h
  unfold readTable? at h
  split at h
  . cases h
  . rw [Option.some.injEq] at h
    subst h
    apply Adds.add
    apply sound_plain (by simp [plainKinds])
    apply (sound_plain (by simp [plainKinds]) (sound_rowMarks (by simp [plainKinds]) _ _)).append
    split
    . exact .nil
    . apply sound_plain (by simp [plainKinds])
      exact Sound.flatMap _ fun row _ => sound_rowMarks (by simp [plainKinds]) _ row

theorem adds_readCode? : BlockReader.Adds readCode? := by
  intro c stop s later h
  unfold readCode? at h
  split at h
  . rw [Option.some.injEq] at h
    subst h
    exact Adds.add (.leaf rfl) s
  . cases h

theorem adds_readFence? : BlockReader.Adds readFence? := by
  intro c stop s later h
  unfold readFence? at h
  dsimp only at h
  split at h
  . cases h
  . rw [Option.some.injEq] at h
    subst h
    exact Adds.add (.leaf rfl) s

theorem adds_readQuote? {inner : Reader} (hinner : inner.Adds) : (readQuote? inner).Adds := by
  intro c stop s later h
  unfold readQuote? at h
  dsimp only at h
  split at h
  . rw [Option.some.injEq] at h
    subst h
    exact Adds.wrap (hasLevel_opening (by simp [plainKinds]) _ _) (hinner _ _ _)
  . cases h

theorem adds_readBreak? : BlockReader.Adds readBreak? := by
  intro c stop s later h
  unfold readBreak? at h
  dsimp only at h
  split at h
  . rw [Option.some.injEq] at h
    subst h
    exact Adds.add (.leaf rfl) s
  . cases h

theorem adds_readItem {inner : Reader} (hinner : inner.Adds) (c : Container) (stop : Nat)
    (marker : ListMarker) (s : Progress) : Adds s (readItem inner c stop marker s) := by
  unfold readItem
  apply Adds.wrap (hasLevel_opening (by simp [plainKinds]) _ _)
  split
  . exact Adds.refl _
  . exact hinner _ _ _

theorem adds_readItems {inner : Reader} (hinner : inner.Adds) (c : Container) (stop : Nat)
    (marker : ListMarker) (s : Progress) : Adds s (readItems inner c stop marker s) := by
  have hitem := adds_readItem hinner c stop marker s
  unfold readItems
  dsimp only
  split
  . next hnext =>
    split
    . exact hitem
    . split
      . exact hitem
      . next following _ =>
        split
        . exact hitem.trans (adds_readItems hinner c stop following _)
        . exact hitem
  . exact hitem
termination_by stop - s.next
decreasing_by omega

theorem adds_readList? {inner : Reader} (hinner : inner.Adds) : (readList? inner).Adds := by
  intro c stop s later h
  unfold readList? at h
  split at h
  . cases h
  . rw [Option.some.injEq] at h
    subst h
    refine Adds.wrap ?_ (adds_readItems hinner _ _ _ _)
    split
    . exact hasLevel_opening (by decide) _ _
    . exact hasLevel_opening (by decide) _ _

theorem adds_readDefinition? : BlockReader.Adds readDefinition? := by
  intro c stop s later h
  unfold readDefinition? at h
  dsimp only at h
  split at h
  . split at h
    . cases h
    . rw [Option.some.injEq] at h
      subst h
      exact Adds.refl _
  . cases h

theorem adds_readHtml? : BlockReader.Adds readHtml? := by
  intro c stop s later h
  unfold readHtml? at h
  dsimp only at h
  split at h
  . cases h
  . rw [Option.some.injEq] at h
    subst h
    exact Adds.add (.leaf rfl) s

theorem adds_readHeading? : BlockReader.Adds readHeading? := by
  intro c stop s later h
  unfold readHeading? Container.heading? at h
  split at h
  . cases h
  . next hheading =>
    split at hheading
    . cases hheading
    . rw [Option.some.injEq] at h
      subst h
      exact Adds.add (sound_headingMarks (level_headingLine? hheading) _) s

theorem adds_readUnderlined? : BlockReader.Adds readUnderlined? := by
  intro c stop s later h
  unfold readUnderlined? at h
  split at h
  . cases h
  . split at h
    . cases h
    . next hunderline =>
      rw [Option.some.injEq] at h
      subst h
      exact Adds.add (sound_headingMarks (level_underline? c hunderline) _) s

theorem adds_readParagraph (c : Container) (s : Progress) : Adds s (readParagraph c s) :=
  Adds.add (sound_plain (by simp [plainKinds]) (.leaf rfl)) s

theorem readBlock_cases {P : Progress → Prop} {quote item : Reader} {c : Container} {stop : Nat}
    {s : Progress}
    (h : ∀ reader ∈ [readTable?, readCode?, readFence?, readQuote? quote, readBreak?, readList? item,
      readDefinition?, readHtml?, readHeading?, readUnderlined?],
      ∀ later, reader c stop s = some later → P later)
    (hparagraph : P (readParagraph c s)) : P (readBlock quote item c stop s) := by
  unfold readBlock
  dsimp only
  cases hfound : List.findSome? _ _ with
  | none => exact hparagraph
  | some later =>
    obtain ⟨reader, hreader, hlater⟩ := List.exists_of_findSome?_eq_some hfound
    exact h reader hreader later hlater

theorem adds_readBlock {quote item : Reader} (hquote : quote.Adds) (hitem : item.Adds) :
    Reader.Adds (readBlock quote item) := by
  intro c stop s
  apply readBlock_cases
  . simp only [List.forall_mem_cons]
    exact ⟨fun _ => adds_readTable?, fun _ => adds_readCode?, fun _ => adds_readFence?,
      fun _ => adds_readQuote? hquote, fun _ => adds_readBreak?, fun _ => adds_readList? hitem,
      fun _ => adds_readDefinition?, fun _ => adds_readHtml?, fun _ => adds_readHeading?,
      fun _ => adds_readUnderlined?, nofun⟩
  . exact adds_readParagraph c s

theorem adds_readBlocks {nested : Nested}
    (h : ∀ readers ∈ nested, readers.1.Adds ∧ readers.2.Adds) : Reader.Adds (readBlocks nested) := by
  intro c stop s
  fun_induction readBlocks nested c stop s with
  | case1 s hstop next hnext => exact Adds.refl s
  | case2 s hstop next hnext hnested => exact Adds.refl s
  | case3 s hstop next hnext quote item hnested after ih =>
    subst hnested
    have hreaders := h (quote, item) rfl
    exact (adds_readBlock hreaders.1 hreaders.2 c stop (s.goTo next)).trans ih
  | case4 s hstop => exact Adds.refl s

theorem adds_readBlocks_some {quote item : Reader} (hquote : quote.Adds) (hitem : item.Adds) :
    Reader.Adds (readBlocks (some (quote, item))) := by
  apply adds_readBlocks
  rintro readers ⟨⟩
  exact ⟨hquote, hitem⟩

theorem adds_reader : ∀ room : Nat, (reader room).Adds
  | 0 => adds_readBlocks nofun
  | 1 => adds_readBlocks_some (adds_reader 0) (adds_reader 0)
  | room + 2 => adds_readBlocks_some (adds_reader (room + 1)) (adds_reader room)

end MarkdownIntake.Markdown
