import MarkdownIntake.Text.Lines

/-!
This module contains the pieces of a text between separators: joined again they give the text back, and
where a separator stands, the text above and the text below have their own pieces.
-/

namespace MarkdownIntake.Text

@[simp]
theorem splitAt_nil (separator : Char) : splitAt separator [] = [[]] := rfl

theorem splitAt_cons (separator c : Char) (cs : List Char) :
    splitAt separator (c :: cs)
      =
    if c = separator then [] :: splitAt separator cs else consFirst c (splitAt separator cs) := rfl

theorem splitAt_ne_nil (separator : Char) (cs : List Char) : splitAt separator cs ≠ [] := by
  cases cs with
  | nil => simp
  | cons c cs =>
    rw [splitAt_cons]
    split
    . simp
    . unfold consFirst
      split <;> simp

theorem splitAt_eq_splitOn (separator : Char) (cs : List Char) :
    splitAt separator cs = cs.splitOn separator := by
  induction cs with
  | nil => rfl
  | cons c cs ih =>
    rw [splitAt_cons, List.splitOn_eq_splitOnP, List.splitOnP_cons_eq_if_modifyHead,
      ← List.splitOn_eq_splitOnP, ← ih]
    split
    . next h => rw [if_pos (by simpa using h)]
    . next h =>
      obtain ⟨piece, pieces, hpieces⟩ := List.exists_cons_of_ne_nil (splitAt_ne_nil separator cs)
      rw [if_neg (by simpa using h), hpieces]
      rfl

theorem joinWith_consFirst (separator : List Char) (c : Char) (pieces : List (List Char)) :
    joinWith separator (consFirst c pieces) = c :: joinWith separator pieces := by
  cases pieces <;> simp [consFirst, joinWith]

theorem joinWith_splitAt (separator : Char) (cs : List Char) :
    joinWith [separator] (splitAt separator cs) = cs := by
  induction cs with
  | nil => rfl
  | cons c cs ih =>
    rw [splitAt_cons]
    split
    . next h =>
      obtain ⟨piece, pieces, hpieces⟩ := List.exists_cons_of_ne_nil (splitAt_ne_nil separator cs)
      rw [hpieces] at ih ⊢
      simpa [joinWith, h] using ih
    . rw [joinWith_consFirst, ih]

theorem splitAt_append_cons (separator : Char) (cs rest : List Char) :
    splitAt separator (cs ++ separator :: rest) = splitAt separator cs ++ splitAt separator rest := by
  induction cs with
  | nil => simp [splitAt_cons]
  | cons c cs ih =>
    rw [List.cons_append, splitAt_cons, splitAt_cons, ih]
    split
    . rfl
    . obtain ⟨piece, pieces, hpieces⟩ := List.exists_cons_of_ne_nil (splitAt_ne_nil separator cs)
      rw [hpieces]
      rfl

theorem not_mem_of_mem_splitAt {separator : Char} {cs piece : List Char}
    (h : piece ∈ splitAt separator cs) : separator ∉ piece := by
  induction cs generalizing piece with
  | nil => simp_all
  | cons c cs ih =>
    rw [splitAt_cons] at h
    split at h
    . rcases List.mem_cons.mp h with rfl | h
      . exact List.not_mem_nil
      . exact ih h
    . next hc =>
      obtain ⟨first, rest, hpieces⟩ := List.exists_cons_of_ne_nil (splitAt_ne_nil separator cs)
      rw [hpieces] at h ih
      rcases List.mem_cons.mp h with rfl | h
      . rw [List.mem_cons, not_or]
        exact ⟨Ne.symm hc, ih List.mem_cons_self⟩
      . exact ih (List.mem_cons_of_mem _ h)

theorem lines_feed_cons (cs : List Char) : lines ('\n' :: cs) = [] :: lines cs := rfl

theorem lines_cons {c : Char} (h : c ≠ '\n') (cs : List Char) :
    lines (c :: cs) = consFirst c (lines cs) := by
  rw [lines, splitAt_cons, if_neg h]
  rfl

theorem exists_lines_eq_cons (cs : List Char) :
    ∃ pieces, lines cs = cs.takeWhile (· ≠ '\n') :: pieces := by
  induction cs with
  | nil => exact ⟨[], rfl⟩
  | cons c cs ih =>
    by_cases hc : c = '\n'
    . subst hc
      exact ⟨lines cs, lines_feed_cons cs⟩
    . obtain ⟨pieces, hpieces⟩ := ih
      exact ⟨pieces, by simp [lines_cons hc, hpieces, consFirst, hc]⟩

theorem length_lines (cs : List Char) : (lines cs).length = cs.count '\n' + 1 := by
  induction cs with
  | nil => rfl
  | cons c cs ih =>
    by_cases hc : c = '\n'
    . subst hc
      rw [lines_feed_cons, List.length_cons, ih, List.count_cons_self]
    . obtain ⟨pieces, hpieces⟩ := exists_lines_eq_cons cs
      rw [lines_cons hc, List.count_cons_of_ne hc, ← ih, hpieces]
      rfl

theorem exists_getElem?_lines (before rest : List Char) :
    ∃ first, (lines (before ++ rest))[before.count '\n']?
      = some (first ++ rest.takeWhile (· ≠ '\n')) := by
  induction before with
  | nil =>
    obtain ⟨pieces, hpieces⟩ := exists_lines_eq_cons rest
    exact ⟨[], by rw [List.nil_append, hpieces]; rfl⟩
  | cons c before ih =>
    obtain ⟨first, hfirst⟩ := ih
    by_cases hc : c = '\n'
    . subst hc
      refine ⟨first, ?_⟩
      rw [List.cons_append, lines_feed_cons, List.count_cons_self, List.getElem?_cons_succ, hfirst]
    . obtain ⟨pieces, hpieces⟩ := exists_lines_eq_cons (before ++ rest)
      rw [List.cons_append, lines_cons hc, List.count_cons_of_ne hc]
      rw [hpieces] at hfirst ⊢
      -- The first line has one character more, and the others are the same.
      cases hcount : before.count '\n' with
      | zero =>
        rw [hcount, List.getElem?_cons_zero, Option.some.injEq] at hfirst
        exact ⟨c :: first, by rw [hfirst]; rfl⟩
      | succ count =>
        rw [hcount] at hfirst
        exact ⟨first, hfirst⟩

theorem takeWhile_append_of_head {p : Char → Bool} {run rest : List Char}
    (hrun : ∀ c ∈ run, p c = true) (hrest : ∀ c ∈ rest.head?, p c = false) :
    (run ++ rest).takeWhile p = run := by
  rw [List.takeWhile_append_of_pos hrun]
  cases rest with
  | nil => rw [List.takeWhile_nil, List.append_nil]
  | cons c rest => rw [List.takeWhile_cons_of_neg (by simp [hrest c rfl]), List.append_nil]

/-- A text is empty, or a line feed ends it: what comes after it starts a line. -/
def EndsLine (cs : List Char) : Prop :=
  cs = [] ∨ cs.getLast? = some '\n'

instance (cs : List Char) : Decidable (EndsLine cs) :=
  inferInstanceAs (Decidable (_ ∨ _))

theorem EndsLine.cons {cs : List Char} (h : EndsLine cs) {c : Char} (hc : cs = [] → c = '\n') :
    EndsLine (c :: cs) := by
  rcases h with rfl | h
  . exact .inr (by rw [hc rfl]; rfl)
  . exact .inr (by rw [List.getLast?_cons, h]; rfl)

theorem EndsLine.of_cons {c : Char} {cs : List Char} (h : EndsLine (c :: cs)) :
    EndsLine cs ∧ (cs = [] → c = '\n') := by
  rcases h with h | h
  . cases h
  . cases cs with
    | nil => exact ⟨.inl rfl, fun _ => by simpa using h⟩
    | cons d cs => exact ⟨.inr (by rwa [List.getLast?_cons_cons] at h), nofun⟩

theorem EndsLine.exists_eq {cs : List Char} (h : EndsLine cs) (hne : cs ≠ []) :
    ∃ before, cs = before ++ ['\n'] := by
  rcases h with h | h
  . exact absurd h hne
  . obtain ⟨before, rfl⟩ := List.getLast?_eq_some_iff.mp h
    exact ⟨before, rfl⟩

end MarkdownIntake.Text
