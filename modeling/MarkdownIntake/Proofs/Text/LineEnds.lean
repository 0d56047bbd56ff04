import MarkdownIntake.Markdown.Line
import MarkdownIntake.Proofs.Text.Lines

/-!
This module contains the copy of a text in which a carriage return stands before each line feed: its
lines, and the occurrences of a snippet in it.
-/

namespace MarkdownIntake.Text

def withReturns (cs : List Char) : List Char :=
  cs.flatMap fun c => if c = '\n' then ['\r', '\n'] else [c]

@[simp]
theorem withReturns_nil : withReturns [] = [] := rfl

@[simp]
theorem withReturns_feed_cons (cs : List Char) :
    withReturns ('\n' :: cs) = '\r' :: '\n' :: withReturns cs := rfl

theorem withReturns_cons {c : Char} (h : c ≠ '\n') (cs : List Char) :
    withReturns (c :: cs) = c :: withReturns cs := by
  simp [withReturns, h]

/-- A reader that takes all line ends for the same does not see the returns. -/
theorem uniformText_withReturns {cs : List Char} (h : '\r' ∉ cs) :
    Markdown.uniformText (withReturns cs) = Markdown.uniformText cs := by
  induction cs with
  | nil => rfl
  | cons c cs ih =>
    rw [List.mem_cons, not_or] at h
    by_cases hc : c = '\n'
    . subst hc
      rw [withReturns_feed_cons]
      simp [Markdown.uniformText, ih h.2]
    . rw [withReturns_cons hc, Markdown.uniformText, Markdown.uniformText, ih h.2]
      all_goals
        rintro _ hreturn -
        exact h.1 hreturn.symm

/-! ### Lines -/

theorem lines_withReturns (cs : List Char) :
    lines (withReturns cs)
      =
    (lines cs).dropLast.map (· ++ ['\r']) ++ (lines cs).getLast?.toList := by
  induction cs with
  | nil => rfl
  | cons c cs ih =>
    obtain ⟨first, rest, hlines⟩ := List.exists_cons_of_ne_nil (splitAt_ne_nil '\n' cs)
    replace hlines : lines cs = first :: rest := hlines
    by_cases hc : c = '\n'
    . subst hc
      rw [withReturns_feed_cons, lines_cons (by decide), lines_feed_cons, lines_feed_cons, ih, hlines]
      simp [consFirst]
    . rw [withReturns_cons hc, lines_cons hc, lines_cons hc, ih, hlines]
      cases rest with
      | nil => rfl
      | cons second rest => simp [consFirst]

/-! ### Occurrences of a snippet -/

def feedsBefore? (snippet : List Char) (rest : List Char) : Option Nat :=
  if snippet.isPrefixOf rest then
    some 0
  else
    match rest with
    | [] => none
    | c :: rest => (feedsBefore? snippet rest).map (· + if c = '\n' then 1 else 0)

theorem feedsBefore?_of_starts {snippet rest : List Char} (h : snippet <+: rest) :
    feedsBefore? snippet rest = some 0 := by
  unfold feedsBefore?
  rw [if_pos (List.isPrefixOf_iff_prefix.mpr h)]

theorem feedsBefore?_cons {snippet : List Char} {c : Char} {rest : List Char}
    (h : ¬ snippet <+: c :: rest) :
    feedsBefore? snippet (c :: rest)
      =
    (feedsBefore? snippet rest).map (· + if c = '\n' then 1 else 0) := by
  rw [feedsBefore?, if_neg (mt List.isPrefixOf_iff_prefix.mp h)]

theorem indexFrom?_eq (snippet rest : List Char) (index : Nat) :
    (indexFrom? snippet rest index).map (fun found => (rest.take (found - index)).count '\n')
        = feedsBefore? snippet rest
      ∧ ∀ found ∈ indexFrom? snippet rest index, index ≤ found := by
  induction rest generalizing index with
  | nil =>
    unfold indexFrom? feedsBefore?
    split <;> simp
  | cons c rest ih =>
    obtain ⟨hcount, hle⟩ := ih (index + 1)
    unfold indexFrom? feedsBefore?
    split
    . simp
    . refine ⟨?_, fun found hfound => Nat.le_of_succ_le (hle found hfound)⟩
      dsimp only
      rw [← hcount, Option.map_map]
      apply Option.map_congr
      intro found hfound
      have hnext : found - index = found - (index + 1) + 1 := by
        have hfirst := hle found hfound
        omega
      rw [Function.comp_apply, hnext, List.take_succ_cons, List.count_cons]
      simp

theorem feedsBefore?_eq_none_iff {snippet rest : List Char} :
    feedsBefore? snippet rest = none ↔ ¬ snippet <:+: rest := by
  induction rest with
  | nil =>
    by_cases h : snippet <+: []
    . rw [feedsBefore?_of_starts h]
      simpa using h.isInfix
    . rw [feedsBefore?, if_neg (mt List.isPrefixOf_iff_prefix.mp h)]
      simpa using h
  | cons c rest ih =>
    rw [List.infix_cons_iff, not_or]
    by_cases h : snippet <+: c :: rest
    . simp [feedsBefore?_of_starts h, h]
    . simp [feedsBefore?_cons h, h, ih]

def InOneLine (snippet : List Char) : Prop :=
  '\n' ∉ snippet ∧ snippet.getLast? ≠ some '\r'

theorem InOneLine.tail {c : Char} {snippet : List Char} (h : InOneLine (c :: snippet)) :
    InOneLine snippet := by
  refine ⟨fun hmem => h.1 (List.mem_cons_of_mem c hmem), fun hlast => h.2 ?_⟩
  rw [List.getLast?_cons, hlast]
  rfl

theorem InOneLine.not_starts_return {snippet : List Char} (h : InOneLine snippet) (hne : snippet ≠ [])
    (rest : List Char) : ¬ snippet <+: '\r' :: '\n' :: rest := by
  intro hstart
  match snippet, hne with
  | [c], _ =>
    rw [List.cons_prefix_cons] at hstart
    exact h.2 (by simp [hstart.1])
  | c :: d :: _, _ =>
    rw [List.cons_prefix_cons, List.cons_prefix_cons] at hstart
    exact h.1 (by simp [hstart.2.1])

theorem InOneLine.not_starts_feed {snippet : List Char} (h : InOneLine snippet) (hne : snippet ≠ [])
    (rest : List Char) : ¬ snippet <+: '\n' :: rest := by
  intro hstart
  match snippet, hne with
  | c :: _, _ =>
    rw [List.cons_prefix_cons] at hstart
    exact h.1 (by simp [hstart.1])

theorem InOneLine.starts_withReturns_iff {snippet : List Char} (h : InOneLine snippet)
    (cs : List Char) : snippet <+: withReturns cs ↔ snippet <+: cs := by
  induction cs generalizing snippet with
  | nil => rfl
  | cons c cs ih =>
    match snippet with
    | [] => simp
    | d :: rest =>
      by_cases hc : c = '\n'
      . subst hc
        exact iff_of_false (h.not_starts_return (by simp) _) (h.not_starts_feed (by simp) _)
      . rw [withReturns_cons hc, List.cons_prefix_cons, List.cons_prefix_cons, ih h.tail]

theorem InOneLine.feedsBefore?_withReturns {snippet : List Char} (h : InOneLine snippet)
    (cs : List Char) : feedsBefore? snippet (withReturns cs) = feedsBefore? snippet cs := by
  by_cases hne : snippet = []
  . subst hne
    rw [feedsBefore?_of_starts List.nil_prefix, feedsBefore?_of_starts List.nil_prefix]
  . induction cs with
    | nil => rfl
    | cons c cs ih =>
      by_cases hc : c = '\n'
      . subst hc
        rw [withReturns_feed_cons, feedsBefore?_cons (h.not_starts_return hne _),
          feedsBefore?_cons (h.not_starts_feed hne _), feedsBefore?_cons (h.not_starts_feed hne _), ih,
          Option.map_map]
        rfl
      . have hcons := h.starts_withReturns_iff (c :: cs)
        rw [withReturns_cons hc] at hcons ⊢
        by_cases hstart : snippet <+: c :: cs
        . rw [feedsBefore?_of_starts hstart, feedsBefore?_of_starts (hcons.mpr hstart)]
        . rw [feedsBefore?_cons hstart, feedsBefore?_cons (mt hcons.mp hstart), ih]

theorem getLast?_of_withReturns_eq {cs before rest : List Char}
    (h : withReturns cs = before ++ '\n' :: rest) : before.getLast? = some '\r' := by
  induction cs generalizing before with
  | nil => simp at h
  | cons c cs ih =>
    by_cases hc : c = '\n'
    . subst hc
      rw [withReturns_feed_cons] at h
      match before with
      | [] => simp at h
      | [d] =>
        rw [List.singleton_append, List.cons.injEq] at h
        rw [← h.1]
        rfl
      | d :: e :: before =>
        simp only [List.cons_append, List.cons.injEq] at h
        rw [List.getLast?_cons_cons, List.getLast?_cons, ih h.2.2]
        rfl
    . rw [withReturns_cons hc] at h
      match before with
      | [] => exact absurd (List.cons.inj h).1 hc
      | d :: before =>
        simp only [List.cons_append, List.cons.injEq] at h
        rw [List.getLast?_cons, ih h.2]
        rfl

theorem feedsBefore?_withReturns_of_feed {snippet : List Char} (hfeed : '\n' ∈ snippet)
    (hreturn : '\r' ∉ snippet) (hfirst : snippet.head? ≠ some '\n') (cs : List Char) :
    feedsBefore? snippet (withReturns cs) = none := by
  rw [feedsBefore?_eq_none_iff]
  rintro ⟨before, after, hcopy⟩
  obtain ⟨first, second, rfl⟩ := List.append_of_mem hfeed
  have hne : first ≠ [] := by
    rintro rfl
    exact hfirst rfl
  have hsplit : withReturns cs = (before ++ first) ++ '\n' :: (second ++ after) := by
    simp [← hcopy]
  have hlast := getLast?_of_withReturns_eq hsplit
  rw [List.getLast?_append, List.getLast?_eq_some_getLast hne, Option.some_or,
    ← List.getLast?_eq_some_getLast hne] at hlast
  exact hreturn (List.mem_append_left _ (List.mem_of_getLast? hlast))

theorem feedsBefore?_of_return {snippet cs : List Char} (hreturn : '\r' ∈ snippet) (h : '\r' ∉ cs) :
    feedsBefore? snippet cs = none := by
  rw [feedsBefore?_eq_none_iff]
  exact fun hwhole => h (hwhole.subset hreturn)

end MarkdownIntake.Text
