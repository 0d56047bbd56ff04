import MarkdownIntake.Text.Blank
import Mathlib.Data.Set.Card

/-!
This module contains the runs of characters with a property in a text, the words that stand between the
runs of blanks, and how many there are of both when texts are put together.
-/

namespace MarkdownIntake.Text

variable {p : Char → Bool}

def StartsWith (p : Char → Bool) (text : List Char) : Prop :=
  ∃ c ∈ text.head?, p c = true

def EndsWith (p : Char → Bool) (text : List Char) : Prop :=
  ∃ c ∈ text.getLast?, p c = true

instance (p : Char → Bool) (text : List Char) : Decidable (StartsWith p text) :=
  decidable_of_iff (text.head?.any p = true) (by simp [StartsWith, Option.any_eq_true])

instance (p : Char → Bool) (text : List Char) : Decidable (EndsWith p text) :=
  decidable_of_iff (text.getLast?.any p = true) (by simp [EndsWith, Option.any_eq_true])

@[simp]
theorem not_startsWith_nil : ¬ StartsWith p [] := by
  rintro ⟨c, ⟨⟩, -⟩

@[simp]
theorem startsWith_cons {c : Char} {cs : List Char} : StartsWith p (c :: cs) ↔ p c = true := by
  simp [StartsWith]

@[simp]
theorem not_endsWith_nil : ¬ EndsWith p [] := by
  rintro ⟨c, ⟨⟩, -⟩

@[simp]
theorem endsWith_singleton {c : Char} : EndsWith p [c] ↔ p c = true := by
  simp [EndsWith]

@[simp]
theorem endsWith_cons_cons {c d : Char} {cs : List Char} :
    EndsWith p (c :: d :: cs) ↔ EndsWith p (d :: cs) := by
  rw [EndsWith, EndsWith, List.getLast?_cons_cons]

structure Stretch where
  before : List Char
  inside : List Char
  after : List Char

/-- A stretch of characters with a property that no such character stands next to. -/
structure IsRun (p : Char → Bool) (text : List Char) (stretch : Stretch) : Prop where
  split : stretch.before ++ (stretch.inside ++ stretch.after) = text
  ne_nil : stretch.inside ≠ []
  inside : ∀ c ∈ stretch.inside, p c = true
  before : ¬ EndsWith p stretch.before
  after : ¬ StartsWith p stretch.after

def runsOf (p : Char → Bool) (text : List Char) : Set Stretch :=
  {stretch | IsRun p text stretch}

theorem IsRun.startsWith {text inside after : List Char} (h : IsRun p text ⟨[], inside, after⟩) :
    StartsWith p text := by
  obtain ⟨c, inside, rfl⟩ := List.exists_cons_of_ne_nil h.ne_nil
  rw [← h.split]
  exact startsWith_cons.mpr (h.inside c List.mem_cons_self)

theorem isRun_cons_iff_behind {c d : Char} {cs before inside after : List Char} :
    IsRun p (c :: cs) ⟨d :: before, inside, after⟩
      ↔
    d = c ∧ (before = [] → p c = false) ∧ IsRun p cs ⟨before, inside, after⟩ := by
  constructor
  . intro h
    obtain ⟨rfl, hsplit⟩ := List.cons.inj h.split
    have hbefore := h.before
    cases before with
    | nil => exact ⟨rfl, fun _ => by simpa using hbefore, hsplit, h.ne_nil, h.inside, by simp, h.after⟩
    | cons =>
      rw [endsWith_cons_cons] at hbefore
      exact ⟨rfl, nofun, hsplit, h.ne_nil, h.inside, hbefore, h.after⟩
  . rintro ⟨rfl, hfirst, h⟩
    refine ⟨congrArg (d :: ·) h.split, h.ne_nil, h.inside, ?_, h.after⟩
    cases before with
    | nil => simpa using hfirst
    | cons => simpa using h.before

theorem isRun_cons_iff_here {c : Char} {cs inside after : List Char} :
    IsRun p (c :: cs) ⟨[], inside, after⟩
      ↔
    p c = true ∧ (inside = [c] ∧ after = cs ∧ ¬ StartsWith p cs
      ∨ ∃ rest, inside = c :: rest ∧ IsRun p cs ⟨[], rest, after⟩) := by
  constructor
  . intro h
    obtain ⟨d, rest, rfl⟩ := List.exists_cons_of_ne_nil h.ne_nil
    obtain ⟨rfl, hsplit⟩ := List.cons.inj h.split
    obtain ⟨hd, hrest⟩ := List.forall_mem_cons.mp h.inside
    refine ⟨hd, ?_⟩
    cases rest with
    | nil =>
      cases hsplit
      exact .inl ⟨rfl, rfl, h.after⟩
    | cons e rest => exact .inr ⟨_, rfl, hsplit, List.cons_ne_nil e rest, hrest, by simp, h.after⟩
  . rintro ⟨hc, ⟨rfl, rfl, hafter⟩ | ⟨rest, rfl, h⟩⟩
    . exact ⟨rfl, List.cons_ne_nil c [], by simpa using hc, by simp, hafter⟩
    . exact ⟨congrArg (c :: ·) h.split, List.cons_ne_nil c rest,
        List.forall_mem_cons.mpr ⟨hc, h.inside⟩, by simp, h.after⟩

/-! ### The number of runs -/

def Stretch.further (c : Char) (stretch : Stretch) : Stretch :=
  { stretch with before := c :: stretch.before }

/-- A stretch at the start of a text takes in a character in front of it, and others do not. -/
def Stretch.widened (c : Char) (stretch : Stretch) : Stretch :=
  if stretch.before = [] then { stretch with inside := c :: stretch.inside } else stretch.further c

theorem Stretch.further_injective (c : Char) : Function.Injective (further c) := by
  rintro ⟨_, _, _⟩ ⟨_, _, _⟩ h
  cases h
  rfl

theorem Stretch.widened_injective (c : Char) : Function.Injective (widened c) := by
  rintro ⟨before, _, _⟩ ⟨other, _, _⟩ h
  cases before <;> cases other <;> cases h <;> rfl

section

variable {c : Char} {cs : List Char}

theorem runsOf_cons_of_not (hc : p c = false) : runsOf p (c :: cs) = Stretch.further c '' runsOf p cs := by
  ext ⟨before, inside, after⟩
  constructor
  . intro h
    cases before with
    | nil => simp [isRun_cons_iff_here.mp h] at hc
    | cons d before =>
      obtain ⟨rfl, -, h⟩ := isRun_cons_iff_behind.mp h
      exact ⟨_, h, rfl⟩
  . rintro ⟨stretch, h, heq⟩
    cases heq
    exact isRun_cons_iff_behind.mpr ⟨rfl, fun _ => hc, h⟩

theorem runsOf_cons_of_startsWith (hc : p c = true) (hcs : StartsWith p cs) :
    runsOf p (c :: cs) = Stretch.widened c '' runsOf p cs := by
  ext ⟨before, inside, after⟩
  constructor
  . intro h
    cases before with
    | nil =>
      obtain ⟨-, ⟨-, -, hnone⟩ | ⟨rest, rfl, hrest⟩⟩ := isRun_cons_iff_here.mp h
      . exact absurd hcs hnone
      . exact ⟨_, hrest, rfl⟩
    | cons d before =>
      obtain ⟨rfl, hfirst, h⟩ := isRun_cons_iff_behind.mp h
      cases before with
      | nil => simp [hfirst rfl] at hc
      | cons e before => exact ⟨_, h, rfl⟩
  . rintro ⟨⟨_ | ⟨e, before'⟩, inside', after'⟩, h, heq⟩
    . cases heq
      exact isRun_cons_iff_here.mpr ⟨hc, .inr ⟨inside', rfl, h⟩⟩
    . cases heq
      exact isRun_cons_iff_behind.mpr ⟨rfl, nofun, h⟩

theorem runsOf_cons_of_not_startsWith (hc : p c = true) (hcs : ¬ StartsWith p cs) :
    runsOf p (c :: cs) = insert ⟨[], [c], cs⟩ (Stretch.further c '' runsOf p cs) := by
  ext ⟨before, inside, after⟩
  constructor
  . intro h
    cases before with
    | nil =>
      obtain ⟨-, ⟨rfl, rfl, -⟩ | ⟨rest, -, h⟩⟩ := isRun_cons_iff_here.mp h
      . exact .inl rfl
      . exact absurd h.startsWith hcs
    | cons d before =>
      obtain ⟨rfl, -, h⟩ := isRun_cons_iff_behind.mp h
      exact .inr ⟨_, h, rfl⟩
  . rintro (heq | ⟨⟨before', inside', after'⟩, h, heq⟩)
    . cases heq
      exact isRun_cons_iff_here.mpr ⟨hc, .inl ⟨rfl, rfl, hcs⟩⟩
    . cases heq
      refine isRun_cons_iff_behind.mpr ⟨rfl, ?_, h⟩
      rintro rfl
      exact absurd h.startsWith hcs

end

def countRuns (p : Char → Bool) : List Char → Nat
  | [] => 0
  | c :: cs => countRuns p cs + if p c = true ∧ ¬ StartsWith p cs then 1 else 0

theorem countRuns_cons (p : Char → Bool) (c : Char) (cs : List Char) :
    countRuns p (c :: cs) = countRuns p cs + if p c = true ∧ ¬ StartsWith p cs then 1 else 0 :=
  rfl

theorem runsOf_nil : runsOf p [] = ∅ := by
  rw [Set.eq_empty_iff_forall_notMem]
  intro stretch h
  obtain ⟨-, hinside⟩ := List.append_eq_nil_iff.mp h.split
  exact h.ne_nil (List.append_eq_nil_iff.mp hinside).1

theorem ncard_runsOf (p : Char → Bool) (text : List Char) :
    (runsOf p text).Finite ∧ (runsOf p text).ncard = countRuns p text := by
  induction text with
  | nil => simp [runsOf_nil, countRuns]
  | cons c cs ih =>
    obtain ⟨hfinite, hncard⟩ := ih
    rw [countRuns_cons, ← hncard]
    by_cases hc : p c = true
    . by_cases hcs : StartsWith p cs
      . rw [runsOf_cons_of_startsWith hc hcs, if_neg (by simp [hcs])]
        exact ⟨hfinite.image _, Set.ncard_image_of_injective _ (Stretch.widened_injective c)⟩
      . have hnew : ⟨[], [c], cs⟩ ∉ Stretch.further c '' runsOf p cs := by
          rintro ⟨stretch, -, heq⟩
          cases heq
        rw [runsOf_cons_of_not_startsWith hc hcs, if_pos ⟨hc, hcs⟩]
        refine ⟨(hfinite.image _).insert _, ?_⟩
        rw [Set.ncard_insert_of_notMem hnew (hfinite.image _),
          Set.ncard_image_of_injective _ (Stretch.further_injective c)]
    . rw [runsOf_cons_of_not (by simpa using hc), if_neg (by simp [hc])]
      exact ⟨hfinite.image _, Set.ncard_image_of_injective _ (Stretch.further_injective c)⟩

theorem countRuns_append {a : List Char} (ha : ¬ EndsWith p a) (cs : List Char) :
    countRuns p (a ++ cs) = countRuns p a + countRuns p cs := by
  induction a with
  | nil => simp [countRuns]
  | cons c a ih =>
    cases a with
    | nil =>
      rw [endsWith_singleton] at ha
      simp [countRuns, ha]
    | cons d a =>
      rw [endsWith_cons_cons] at ha
      rw [List.cons_append, countRuns_cons, ih ha, countRuns_cons p c]
      simp only [List.cons_append, startsWith_cons]
      omega

theorem countRuns_run_append {w : List Char} (hne : w ≠ []) (hw : ∀ c ∈ w, p c = true) {cs : List Char}
    (hcs : ¬ StartsWith p cs) : countRuns p (w ++ cs) = countRuns p cs + 1 := by
  induction w with
  | nil => exact absurd rfl hne
  | cons c w ih =>
    obtain ⟨hc, hw⟩ := List.forall_mem_cons.mp hw
    cases w with
    | nil => simp [countRuns, hc, hcs]
    | cons d w =>
      have hd := hw d List.mem_cons_self
      rw [List.cons_append, countRuns_cons, ih (List.cons_ne_nil d w) hw]
      simp [hd]

/-- Runs of characters with a property and runs of characters without it take turns. -/
theorem countRuns_add_one (p : Char → Bool) (text : List Char) :
    countRuns p text + 1
      =
    countRuns (!p ·) text + (if StartsWith p text then 1 else 0) + (if EndsWith p text then 1 else 0)
      + if text = [] then 1 else 0 := by
  induction text with
  | nil => simp [countRuns]
  | cons c cs ih =>
    cases cs with
    | nil => cases hc : p c <;> simp [countRuns, hc]
    | cons d cs =>
      rw [countRuns_cons, countRuns_cons (!p ·)]
      simp only [startsWith_cons, endsWith_cons_cons, List.cons_ne_nil, if_false] at ih ⊢
      cases hc : p c <;> cases hd : p d <;> simp [hd] at ih ⊢ <;> omega

/-! ### Blanks -/

def runStep (state : Nat × Bool) (c : Char) : Nat × Bool :=
  if isBlank c then (if state.2 then state.1 else state.1 + 1, true) else (state.1, false)

theorem blankRuns_eq_foldl (text : List Char) : blankRuns text = (text.foldl runStep (0, false)).1 :=
  rfl

theorem foldl_runStep (text : List Char) (count : Nat) (inRun : Bool) :
    (text.foldl runStep (count, inRun)).1 + (if inRun = true ∧ StartsWith isBlank text then 1 else 0)
      =
    count + countRuns isBlank text := by
  induction text generalizing count inRun with
  | nil => simp [countRuns]
  | cons c cs ih =>
    simp only [List.foldl_cons, countRuns_cons, startsWith_cons]
    cases hc : isBlank c with
    | true =>
      have h := ih (if inRun then count else count + 1) true
      rw [runStep, if_pos hc]
      by_cases hcs : StartsWith isBlank cs <;> cases inRun <;> simp [hcs] at h ⊢ <;> omega
    | false =>
      have h := ih count false
      rw [runStep, if_neg (by simp [hc])]
      simpa using h

theorem blankRuns_eq_countRuns (text : List Char) : blankRuns text = countRuns isBlank text := by
  have h := foldl_runStep text 0 false
  rw [blankRuns_eq_foldl]
  simpa using h

/-! ### Words -/

def words (text : List Char) : List (List Char) :=
  (text.splitOnP isBlank).filter (· ≠ [])

theorem exists_splitOnP_eq_cons (text : List Char) :
    ∃ piece pieces, text.splitOnP isBlank = piece :: pieces
      ∧ (piece = [] ↔ ¬ StartsWith (!isBlank ·) text) := by
  cases text with
  | nil => exact ⟨[], [], List.splitOnP_nil, by simp⟩
  | cons c cs =>
    rw [List.splitOnP_cons_eq_if_modifyHead]
    split
    . next hc => exact ⟨[], _, rfl, by simp [hc]⟩
    . next hc =>
      obtain ⟨piece, pieces, hpieces⟩ := List.exists_cons_of_ne_nil (List.splitOnP_ne_nil isBlank cs)
      exact ⟨c :: piece, pieces, by rw [hpieces]; rfl, by simp [hc]⟩

theorem length_words (text : List Char) : (words text).length = countRuns (!isBlank ·) text := by
  induction text with
  | nil => simp [words, countRuns]
  | cons c cs ih =>
    obtain ⟨piece, pieces, hpieces, hpiece⟩ := exists_splitOnP_eq_cons cs
    rw [countRuns_cons, ← ih, words, words, List.splitOnP_cons_eq_if_modifyHead, hpieces]
    cases hc : isBlank c with
    | true => simp
    | false =>
      by_cases h : piece = []
      . simp [h, hpiece.mp h]
      . simp [h, Classical.not_not.mp (mt hpiece.mpr h)]

end MarkdownIntake.Text
