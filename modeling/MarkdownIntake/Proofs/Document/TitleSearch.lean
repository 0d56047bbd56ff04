import MarkdownIntake.Proofs.Document.Title
import MarkdownIntake.Proofs.Text.Blank
import MarkdownIntake.Proofs.Text.Pattern
import Mathlib.Data.Nat.Find

/-!
This module contains which title a text has. The title is told in two ways: by the place where it stands,
below the first number sign that starts a line and has a blank and any text after it, and by a pattern
that the text is searched for from left to right.
-/

namespace MarkdownIntake.Document

open MarkdownIntake.Text

/-! ### The text of a title -/

structure TitleText (below blanks title trail rest : List Char) : Prop where
  text : below = blanks ++ (title ++ (trail ++ rest))
  blanks : ∀ c ∈ blanks, isBlank c = true
  ne_nil : title ≠ []
  first : ∀ c ∈ title.head?, isBlank c = false
  last : ∀ c ∈ title.getLast?, isBlank c = false
  line : '\n' ∉ title ++ trail
  trail : ∀ c ∈ trail, isBlank c = true
  rest : ∀ c ∈ rest.head?, c = '\n'

theorem exists_titleText {blank : Char} {below : List Char} (hblank : isBlank blank = true)
    (hbelow : below.all isBlank = false) :
    ∃ title, titleAfterSign? (blank :: below) = some title
      ∧ ∃ blanks trail rest, TitleText below blanks title trail rest := by
  obtain ⟨first, body, hbody⟩ : ∃ first body, below.dropWhile isBlank = first :: body := by
    apply List.exists_cons_of_ne_nil
    rw [Ne, List.dropWhile_eq_nil_iff, ← List.all_eq_true, hbelow]
    exact Bool.false_ne_true
  have hfirst : isBlank first = false := by
    have hhead := List.head?_dropWhile_not isBlank below
    rwa [hbody] at hhead
  have hfeed : first ≠ '\n' := by
    rintro rfl
    cases hfirst
  generalize hline : first :: body.takeWhile (· ≠ '\n') = line
  obtain ⟨trail, htrim, htrail, hlast⟩ := exists_eq_trimRight_append line
  have hne : trimRight line ≠ [] := by
    intro hnil
    rw [hnil, List.nil_append] at htrim
    have hblank := htrail first (by rw [← htrim, ← hline]; exact List.mem_cons_self)
    rw [hfirst] at hblank
    cases hblank
  refine ⟨trimRight line, ?_, below.takeWhile isBlank, trail, body.dropWhile (· ≠ '\n'), ?_⟩
  . simp [titleAfterSign?, hblank, hbody, hfeed, ← hline]
  . exact {
      text := by
        rw [← List.append_assoc (trimRight line), ← htrim, ← hline, List.cons_append,
          List.takeWhile_append_dropWhile, ← hbody, List.takeWhile_append_dropWhile]
      blanks := fun _ => List.mem_takeWhile_imp
      ne_nil := hne
      first := by
        intro c hc
        have hhead : line.head? = some c := by
          rw [htrim, List.head?_append, hc, Option.some_or]
        rw [← hline, List.head?_cons, Option.some.injEq] at hhead
        rw [← hhead, hfirst]
      last := hlast
      line := by
        rw [← htrim, ← hline, List.mem_cons, not_or]
        refine ⟨hfeed.symm, fun hmem => ?_⟩
        simpa using List.mem_takeWhile_imp hmem
      trail := htrail
      rest := by
        intro c hc
        have hhead := List.head?_dropWhile_not (· ≠ '\n') body
        rw [hc] at hhead
        simpa using hhead }

theorem TitleText.trim_eq {below blanks title trail rest : List Char}
    (h : TitleText below blanks title trail rest) : trim title = title :=
  trim_eq_self h.first h.last

theorem all_isBlank_of_titleAfterSign? {blank : Char} {below : List Char} (hblank : isBlank blank = true)
    (h : titleAfterSign? (blank :: below) = none) : below.all isBlank = true := by
  rw [← Bool.not_eq_false]
  intro hbelow
  obtain ⟨title, htitle, -⟩ := exists_titleText hblank hbelow
  rw [h] at htitle
  cases htitle

/-! ### Searching for a pattern -/

def textPattern : Pattern :=
  [.most 1 isBlank, .fewest 1 (· ≠ '\n'), .most 0 isBlank, .lineEnd]

def titlePattern : Pattern :=
  .lineStart :: .one '#' :: textPattern

/-- The title in a match is what the fourth part took, unless that is blank. -/
def matchedTitle? (pieces : List (List Char)) : Option (List Char) :=
  let title := trim (pieces.getD 3 [])
  if title = [] then none else some title

def searchTitle? (cs : List Char) : Option (List Char) :=
  (titlePattern.allMatches 0 [] cs).findSome? matchedTitle?

theorem match?_titlePattern {before after : List Char} (h : EndsLine before) :
    titlePattern.match? before ('#' :: after)
      =
    (textPattern.match? (before ++ ['#']) after).map ([] :: ['#'] :: ·) := by
  rw [titlePattern, Pattern.match?_lineStart h, Pattern.match?_one, Option.map_map]
  rfl

theorem match?_titlePattern_of_not {before after : List Char}
    (h : ¬ (EndsLine before ∧ after.head? = some '#')) : titlePattern.match? before after = none := by
  by_cases hstart : EndsLine before
  . rw [titlePattern, Pattern.match?_lineStart hstart,
      Pattern.match?_one_of_ne fun hsign => h ⟨hstart, hsign⟩]
    rfl
  . exact Pattern.match?_lineStart_of_not hstart

theorem exists_match?_textPattern (before : List Char) {below blanks title trail rest : List Char}
    {blank : Char} (hblank : isBlank blank = true) (h : TitleText below blanks title trail rest) :
    ∃ more, textPattern.match? before (blank :: below) = some ((blank :: blanks) :: title :: more) := by
  have hfeed : '\n' ∉ title ∧ '\n' ∉ trail := by simpa [not_or] using h.line
  obtain ⟨more, hmore⟩ : ∃ more, Pattern.match? [.most 0 isBlank, .lineEnd]
      (before ++ blank :: blanks ++ title) (trail ++ rest) = some more := by
    rw [← Option.isSome_iff_exists, Pattern.isSome_match?_lineTail hfeed.2 h.rest]
    exact h.trail
  refine ⟨more, ?_⟩
  rw [h.text, ← List.cons_append, textPattern]
  apply Pattern.match?_most
  . exact List.forall_mem_cons.mpr ⟨hblank, h.blanks⟩
  . rw [List.head?_append_of_ne_nil _ h.ne_nil]
    exact h.first
  . simp
  . refine Pattern.match?_fewest ?_ (List.length_pos_iff.mpr h.ne_nil) ?_ hmore
    . intro c hc
      simpa using ne_of_mem_of_not_mem hc hfeed.1
    . intro short tail htitle htail
      -- The last character of the title is not blank, and it would be among the blanks at the end.
      rw [← List.append_assoc, ← Option.not_isSome_iff_eq_none, Pattern.isSome_match?_lineTail ?_ h.rest]
      . intro hall
        have hlast := List.getLast?_eq_some_getLast htail
        have hmem : tail.getLast htail ∈ tail ++ trail := List.mem_append_left _ (List.getLast_mem htail)
        have hfalse := h.last (tail.getLast htail) (by rw [htitle, List.getLast?_append, hlast]; rfl)
        rw [hall _ hmem] at hfalse
        cases hfalse
      . intro hmem
        apply h.line
        rw [htitle, List.append_assoc]
        exact List.mem_append_right _ hmem

theorem matchedTitle?_of_blank {before after : List Char} {pieces : List (List Char)}
    (hafter : ∀ c ∈ after, isBlank c = true) (h : textPattern.match? before after = some pieces) :
    matchedTitle? ([] :: ['#'] :: pieces) = none := by
  have hstarts := Pattern.flatten_isPrefix_of_mem_ways (List.mem_of_head? h)
  have hpiece : ∀ c ∈ pieces.getD 1 [], isBlank c = true := by
    intro c hc
    apply hafter
    apply hstarts.subset
    rw [List.getD_eq_getElem?_getD] at hc
    cases hget : pieces[1]? with
    | none =>
      rw [hget] at hc
      cases hc
    | some piece =>
      rw [hget] at hc
      exact List.mem_flatten_of_mem (List.mem_of_getElem? hget) hc
  have htrim : trim (pieces.getD 1 []) = [] := stripWhile_eq_nil_iff.mpr hpiece
  simpa [matchedTitle?] using htrim

theorem match?_textPattern_of_head {before after : List Char}
    (h : ∀ c ∈ after.head?, isBlank c = false) : textPattern.match? before after = none :=
  Pattern.match?_most_of_head h Nat.one_pos

theorem bind_match?_titlePattern {before : List Char} (h : EndsLine before) (after : List Char) :
    (titlePattern.match? before ('#' :: after)).bind matchedTitle? = titleAfterSign? after := by
  rw [match?_titlePattern h]
  cases after with
  | nil =>
    rw [match?_textPattern_of_head (by simp)]
    rfl
  | cons blank below =>
    cases hblank : isBlank blank with
    | false =>
      rw [match?_textPattern_of_head (by simp [hblank])]
      simp [titleAfterSign?, hblank]
    | true =>
      cases hbelow : below.all isBlank with
      | false =>
        obtain ⟨title, htitle, blanks, trail, rest, htext⟩ := exists_titleText hblank hbelow
        obtain ⟨more, hmore⟩ := exists_match?_textPattern (before ++ ['#']) hblank htext
        rw [hmore, htitle]
        simp [matchedTitle?, htext.trim_eq, htext.ne_nil]
      | true =>
        have hall : ∀ c ∈ blank :: below, isBlank c = true :=
          List.forall_mem_cons.mpr ⟨hblank, List.all_eq_true.mp hbelow⟩
        have hnone : titleAfterSign? (blank :: below) = none := by
          rw [← Option.not_isSome_iff_eq_none, isSome_titleAfterSign?]
          rintro ⟨other, rest, heq, -, hrest⟩
          rw [← (List.cons.inj heq).2, hbelow] at hrest
          cases hrest
        rw [hnone]
        cases hmatch : textPattern.match? (before ++ ['#']) (blank :: below) with
        | none => rfl
        | some pieces => exact matchedTitle?_of_blank hall hmatch

theorem allMatches_of_not_mem {after : List Char} (h : '#' ∉ after) (skip : Nat) (before : List Char) :
    titlePattern.allMatches skip before after = [] := by
  induction after generalizing skip before with
  | nil =>
    cases skip with
    | zero =>
      rw [Pattern.allMatches, match?_titlePattern_of_not (by simp)]
      rfl
    | succ skip => rfl
  | cons c after ih =>
    rw [List.mem_cons, not_or] at h
    cases skip with
    | zero =>
      rw [Pattern.allMatches, match?_titlePattern_of_not (by simp [Ne.symm h.1])]
      exact ih h.2 _ _
    | succ skip => exact ih h.2 skip _

theorem sign_not_mem_of_titleAfterSign? {before after : List Char} {pieces : List (List Char)}
    (hmatch : textPattern.match? before after = some pieces) (h : titleAfterSign? after = none) :
    '#' ∉ after := by
  cases after with
  | nil => exact List.not_mem_nil
  | cons blank below =>
    cases hblank : isBlank blank with
    | false =>
      rw [match?_textPattern_of_head (by simp [hblank])] at hmatch
      cases hmatch
    | true =>
      have hbelow := List.all_eq_true.mp (all_isBlank_of_titleAfterSign? hblank h)
      have hall : ∀ c ∈ blank :: below, isBlank c = true := List.forall_mem_cons.mpr ⟨hblank, hbelow⟩
      exact fun hmem => absurd (hall '#' hmem) (by decide)

theorem findSome?_allMatches {before : List Char} {lineStart : Bool}
    (h : lineStart = true ↔ EndsLine before) (after : List Char) :
    (titlePattern.allMatches 0 before after).findSome? matchedTitle? = titleFrom? lineStart after := by
  induction after generalizing before lineStart with
  | nil =>
    rw [Pattern.allMatches, match?_titlePattern_of_not (by simp)]
    rfl
  | cons c after ih =>
    have hnext : decide (c = '\n') = true ↔ EndsLine (before ++ [c]) := by
      simp [EndsLine]
    rw [Pattern.allMatches, titleFrom?]
    by_cases hsign : EndsLine before ∧ c = '#'
    . obtain ⟨hstart, rfl⟩ := hsign
      have hbind := bind_match?_titlePattern hstart after
      rw [match?_titlePattern hstart] at hbind ⊢
      rw [if_pos (by simp [h.mpr hstart])]
      cases hmatch : textPattern.match? (before ++ ['#']) after with
      | none =>
        rw [hmatch] at hbind
        rw [← hbind]
        exact ih hnext
      | some pieces =>
        rw [hmatch, Option.map_some, Option.bind_some] at hbind
        rw [Option.map_some, List.findSome?_cons, hbind]
        cases htitle : titleAfterSign? after with
        | some title => rfl
        | none =>
          -- The match reached over blanks only, and what it skipped has no sign.
          have hsign := sign_not_mem_of_titleAfterSign? hmatch htitle
          have hrest := ih hnext
          rw [allMatches_of_not_mem hsign] at hrest
          rw [allMatches_of_not_mem hsign]
          exact hrest
    . rw [match?_titlePattern_of_not (by simpa using hsign), if_neg]
      . exact ih hnext
      . simpa [h] using hsign

/-! ### The first line with a title -/

structure FirstTitleLine (markdown : String) (above : List Char) (blank : Char) (below : List Char) :
    Prop where
  line : TitleLine markdown above blank below
  least : ∀ above' blank' below', TitleLine markdown above' blank' below' →
    above.length ≤ above'.length

theorem TitleLine.exists_first {markdown : String} {above below : List Char} {blank : Char}
    (h : TitleLine markdown above blank below) :
    ∃ above blank below, FirstTitleLine markdown above blank below := by
  classical
  have hex : ∃ length above blank below, TitleLine markdown above blank below ∧ above.length = length :=
    ⟨above.length, above, blank, below, h, rfl⟩
  obtain ⟨above, blank, below, hline, hlength⟩ := Nat.find_spec hex
  refine ⟨above, blank, below, hline, fun above' blank' below' hline' => ?_⟩
  rw [hlength]
  exact Nat.find_min' hex ⟨above', blank', below', hline', rfl⟩

theorem titleFrom?_of_first {lineStart : Bool} {above below : List Char} {blank : Char}
    (habove : above = [] ∧ lineStart = true ∨ above.getLast? = some '\n')
    (hblank : isBlank blank = true) (hbelow : below.all isBlank = false)
    (hleast : ∀ above' blank' below',
      above ++ '#' :: blank :: below = above' ++ '#' :: blank' :: below' →
      (above' = [] ∧ lineStart = true ∨ above'.getLast? = some '\n') → isBlank blank' = true →
      below'.all isBlank = false → above.length ≤ above'.length) :
    titleFrom? lineStart (above ++ '#' :: blank :: below) = titleAfterSign? (blank :: below) := by
  induction above generalizing lineStart with
  | nil =>
    obtain ⟨title, htitle, -⟩ := exists_titleText hblank hbelow
    have hstart : lineStart = true := by simpa using habove
    simp [titleFrom?, hstart, htitle]
  | cons c above ih =>
    have hnext : titleFrom? (c = '\n') (above ++ '#' :: blank :: below)
        = titleAfterSign? (blank :: below) := by
      apply ih
      . exact getLast?_cons_eq_feed_iff.mp (by simpa using habove)
      . intro above' blank' below' heq habove' hblank' hbelow'
        have hle := hleast (c :: above') blank' below' (by rw [List.cons_append, heq, List.cons_append])
          (.inr (getLast?_cons_eq_feed_iff.mpr habove')) hblank' hbelow'
        simpa using hle
    rw [List.cons_append, titleFrom?]
    split
    . next hsign =>
      rw [Bool.and_eq_true, decide_eq_true_eq] at hsign
      obtain ⟨hstart, rfl⟩ := hsign
      cases htitle : titleAfterSign? (above ++ '#' :: blank :: below) with
      | none => exact hnext
      | some title =>
        -- A title right here would be an earlier one.
        obtain ⟨blank', below', heq, hblank', hbelow'⟩ :=
          (isSome_titleAfterSign? (above ++ '#' :: blank :: below)).mp (by rw [htitle]; rfl)
        have hle := hleast [] blank' below' (by rw [List.cons_append, heq, List.nil_append])
          (.inl ⟨rfl, hstart⟩) hblank' hbelow'
        cases hle
    . exact hnext

/--
The title of a text is the first one that a search for the pattern finds. It is taken from the first
line that has a title, and it is not blank, in one line and without blanks around it; without such a
line it is the fallback.
-/
theorem title_of_firstTitleLine (markdown fallback : String) :
    title markdown fallback = ((searchTitle? markdown.toList).map String.ofList).getD fallback
      ∧ ((∀ above blank below, ¬ TitleLine markdown above blank below) →
        title markdown fallback = fallback)
      ∧ (∀ above blank below, FirstTitleLine markdown above blank below →
        ∃ blanks trail rest, TitleText below blanks (title markdown fallback).toList trail rest)
      ∧ ∀ above blank below, TitleLine markdown above blank below →
        title markdown fallback ≠ "" ∧ '\n' ∉ (title markdown fallback).toList
          ∧ trimmed (title markdown fallback) = title markdown fallback := by
  have hfirst : ∀ above blank below, FirstTitleLine markdown above blank below →
      ∃ blanks trail rest, TitleText below blanks (title markdown fallback).toList trail rest := by
    intro above blank below h
    obtain ⟨found, hfound, htext⟩ := exists_titleText h.line.blank h.line.below
    have htitle : titleFrom? true markdown.toList = some found := by
      rw [h.line.text, titleFrom?_of_first (h.line.above.imp_left fun hnil => ⟨hnil, rfl⟩) h.line.blank
        h.line.below, hfound]
      intro above' blank' below' heq habove' hblank' hbelow'
      exact h.least above' blank' below'
        ⟨h.line.text.trans heq, habove'.imp_left And.left, hblank', hbelow'⟩
    rwa [title, htitle, String.toList_ofList]
  refine ⟨?_, ?_, hfirst, ?_⟩
  . have hstart : true = true ↔ EndsLine [] := iff_of_true rfl (.inl rfl)
    rw [searchTitle?, findSome?_allMatches hstart, title]
    cases titleFrom? true markdown.toList <;> rfl
  . intro hnone
    exact (title_eq_fallback_iff_forall markdown).mpr hnone fallback
  . intro above blank below hline
    obtain ⟨above, blank, below, hleast⟩ := hline.exists_first
    obtain ⟨blanks, trail, rest, htext⟩ := hfirst above blank below hleast
    refine ⟨?_, fun hmem => htext.line (List.mem_append_left _ hmem), ?_⟩
    . intro hempty
      exact htext.ne_nil (by rw [hempty]; rfl)
    . rw [trimmed, htext.trim_eq, String.ofList_toList]

example : title " # a\n#b\n#\t\n \n  C d \t\n \ne\n# f" "" = "C d" := by
  decide

def titleBelowSign : String :=
  "##\n#\n Two words \n# More"

theorem title_of_firstTitleLine_titleBelowSign :
    FirstTitleLine titleBelowSign "##\n".toList '\n' " Two words \n# More".toList
      ∧ (∃ blanks trail rest, TitleText " Two words \n# More".toList blanks
        (title titleBelowSign "").toList trail rest)
      ∧ title titleBelowSign "" = "Two words" := by
  have hfirst : FirstTitleLine titleBelowSign "##\n".toList '\n' " Two words \n# More".toList := by
    refine ⟨⟨by decide, .inr (by decide), by decide, by decide⟩, ?_⟩
    rintro above blank below ⟨htext, habove, hblank, -⟩
    match above with
    | [] =>
      have hsign : '#' = blank := (List.cons.inj (List.cons.inj htext).2).1
      rw [← hsign] at hblank
      cases hblank
    | [c] =>
      have hsign : '#' = c := (List.cons.inj htext).1
      simp [EndsLine, ← hsign] at habove
    | [c, d] =>
      have hsign : '#' = d := (List.cons.inj (List.cons.inj htext).2).1
      simp [EndsLine, ← hsign] at habove
    | _ :: _ :: _ :: _ => exact Nat.le_add_left 3 _
  obtain ⟨-, -, htitle, -⟩ := title_of_firstTitleLine titleBelowSign ""
  exact ⟨hfirst, htitle _ _ _ hfirst, by decide⟩

end MarkdownIntake.Document
