import MarkdownIntake.Proofs.Text.Lines
import Mathlib.Data.List.TakeWhile
import Mathlib.Data.Nat.Find

/-!
This module contains what a search for a snippet finds: the first place at or after the start of the
search, in the line that has the snippet, or its first line if the snippet has several.
-/

namespace MarkdownIntake.Text

def OccursAt (snippet text : List Char) (index : Nat) : Prop :=
  ∃ before after, text = before ++ (snippet ++ after) ∧ before.length = index

/-- A search does not pass over `index`, where a negative start counts from the end of the text. -/
def Searched (length : Nat) (start : Int) (index : Nat) : Prop :=
  if start < 0 then length + start ≤ index else start ≤ index

structure FirstAt (snippet text : List Char) (start : Int) (index : Nat) : Prop where
  occurs : OccursAt snippet text index
  searched : Searched text.length start index
  least : ∀ other, OccursAt snippet text other → Searched text.length start other → index ≤ other

/-! ### Occurrences -/

theorem occursAt_zero_iff {snippet text : List Char} : OccursAt snippet text 0 ↔ snippet <+: text := by
  simp [OccursAt, eq_comm, List.IsPrefix]

theorem not_occursAt_nil_succ {snippet : List Char} {index : Nat} :
    ¬ OccursAt snippet [] (index + 1) := by
  rintro ⟨before, after, htext, hlength⟩
  simp_all

theorem occursAt_cons_succ_iff {snippet text : List Char} {c : Char} {index : Nat} :
    OccursAt snippet (c :: text) (index + 1) ↔ OccursAt snippet text index := by
  constructor
  . rintro ⟨_ | ⟨d, before⟩, after, htext, hlength⟩
    . cases hlength
    . exact ⟨before, after, (List.cons.inj htext).2, by simpa using hlength⟩
  . rintro ⟨before, after, rfl, rfl⟩
    exact ⟨c :: before, after, rfl, rfl⟩

theorem OccursAt.le_length {snippet text : List Char} {index : Nat} (h : OccursAt snippet text index) :
    index ≤ text.length := by
  obtain ⟨before, after, rfl, rfl⟩ := h
  simp

theorem occursAt_drop_iff {snippet text : List Char} {first index : Nat} (h : first ≤ text.length) :
    OccursAt snippet (text.drop first) index ↔ OccursAt snippet text (first + index) := by
  induction first generalizing text with
  | zero => simp
  | succ first ih =>
    cases text with
    | nil => cases h
    | cons c text =>
      rw [List.drop_succ_cons, ih (by simpa using h), Nat.add_right_comm, occursAt_cons_succ_iff]

theorem occursAt_iff {snippet text : List Char} {index : Nat} :
    OccursAt snippet text index ↔ index ≤ text.length ∧ snippet <+: text.drop index := by
  constructor
  . intro h
    have hle := h.le_length
    rw [← Nat.add_zero index, ← occursAt_drop_iff hle, occursAt_zero_iff] at h
    exact ⟨hle, h⟩
  . rintro ⟨hle, h⟩
    rwa [← occursAt_zero_iff, occursAt_drop_iff hle, Nat.add_zero] at h

instance (snippet text : List Char) (index : Nat) : Decidable (OccursAt snippet text index) :=
  decidable_of_iff' _ occursAt_iff

theorem OccursAt.left {first second text : List Char} {index : Nat}
    (h : OccursAt (first ++ second) text index) : OccursAt first text index := by
  obtain ⟨before, after, rfl, rfl⟩ := h
  exact ⟨before, second ++ after, by simp, rfl⟩

theorem OccursAt.right {first second text : List Char} {index : Nat}
    (h : OccursAt (first ++ second) text index) : OccursAt second text (index + first.length) := by
  obtain ⟨before, after, rfl, rfl⟩ := h
  exact ⟨before ++ first, after, by simp, by simp⟩

/-! ### Searches -/

theorem searched_iff {length : Nat} {start : Int} {index : Nat} :
    Searched length start index ↔ searchStart length start ≤ index := by
  unfold Searched searchStart
  split <;> omega

theorem indexFrom?_eq_some_iff {snippet rest : List Char} {index found : Nat} :
    indexFrom? snippet rest index = some found
      ↔
    ∃ distance, found = index + distance ∧ OccursAt snippet rest distance
      ∧ ∀ other, OccursAt snippet rest other → distance ≤ other := by
  by_cases hstart : snippet <+: rest
  . have hzero := occursAt_zero_iff.mpr hstart
    unfold indexFrom?
    rw [if_pos (List.isPrefixOf_iff_prefix.mpr hstart), Option.some.injEq]
    constructor
    . rintro rfl
      exact ⟨0, rfl, hzero, fun _ _ => Nat.zero_le _⟩
    . rintro ⟨distance, rfl, -, hleast⟩
      rw [Nat.le_zero.mp (hleast 0 hzero), Nat.add_zero]
  . have hzero := mt occursAt_zero_iff.mp hstart
    cases rest with
    | nil =>
      rw [indexFrom?, if_neg (mt List.isPrefixOf_iff_prefix.mp hstart)]
      refine iff_of_false (by simp) ?_
      rintro ⟨_ | distance, -, hoccurs, -⟩
      . exact hzero hoccurs
      . exact not_occursAt_nil_succ hoccurs
    | cons c rest =>
      rw [indexFrom?, if_neg (mt List.isPrefixOf_iff_prefix.mp hstart), indexFrom?_eq_some_iff]
      constructor
      . rintro ⟨distance, rfl, hoccurs, hleast⟩
        refine ⟨distance + 1, by omega, occursAt_cons_succ_iff.mpr hoccurs, ?_⟩
        rintro (_ | other) hother
        . exact absurd hother hzero
        . exact Nat.succ_le_succ (hleast other (occursAt_cons_succ_iff.mp hother))
      . rintro ⟨_ | distance, rfl, hoccurs, hleast⟩
        . exact absurd hoccurs hzero
        . refine ⟨distance, by omega, occursAt_cons_succ_iff.mp hoccurs, fun other hother => ?_⟩
          exact Nat.le_of_succ_le_succ (hleast (other + 1) (occursAt_cons_succ_iff.mpr hother))

theorem find?_eq_some_iff {text snippet : List Char} {start : Int} {index : Nat} :
    find? text snippet start = some index ↔ FirstAt snippet text start index := by
  unfold find?
  generalize hfirst : searchStart text.length start = first
  dsimp only
  have hsearched : ∀ index, Searched text.length start index ↔ first ≤ index := by
    intro index
    rw [searched_iff, hfirst]
  split
  . next hle =>
    rw [indexFrom?_eq_some_iff]
    simp only [occursAt_drop_iff hle]
    constructor
    . rintro ⟨distance, rfl, hoccurs, hleast⟩
      refine ⟨hoccurs, (hsearched _).mpr (Nat.le_add_right _ _), fun other hother hreached => ?_⟩
      obtain ⟨further, rfl⟩ := Nat.exists_eq_add_of_le ((hsearched other).mp hreached)
      exact Nat.add_le_add_left (hleast further hother) first
    . intro h
      obtain ⟨distance, rfl⟩ := Nat.exists_eq_add_of_le ((hsearched index).mp h.searched)
      refine ⟨distance, rfl, h.occurs, fun other hother => ?_⟩
      exact Nat.le_of_add_le_add_left (h.least _ hother ((hsearched _).mpr (Nat.le_add_right _ _)))
  . next hlt =>
    refine iff_of_false (by simp) fun h => hlt ?_
    exact Nat.le_trans ((hsearched index).mp h.searched) h.occurs.le_length

theorem find?_eq_none_iff {text snippet : List Char} {start : Int} :
    find? text snippet start = none
      ↔
    ∀ index, Searched text.length start index → ¬ OccursAt snippet text index := by
  classical
  constructor
  . intro hnone index hsearched hoccurs
    have hex : ∃ index, OccursAt snippet text index ∧ Searched text.length start index :=
      ⟨index, hoccurs, hsearched⟩
    have hfirst : FirstAt snippet text start (Nat.find hex) :=
      ⟨(Nat.find_spec hex).1, (Nat.find_spec hex).2, fun _ hother hreached =>
        Nat.find_min' hex ⟨hother, hreached⟩⟩
    rw [find?_eq_some_iff.mpr hfirst] at hnone
    cases hnone
  . intro h
    rw [Option.eq_none_iff_forall_ne_some]
    intro index hfound
    have hfirst := find?_eq_some_iff.mp hfound
    exact h index hfirst.searched hfirst.occurs

/-! ### Lines -/

theorem OccursAt.exists_line {snippet text : List Char} {index : Nat} (h : OccursAt snippet text index) :
    ∃ line, (lines text)[(text.take index).count '\n']? = some line
      ∧ snippet.takeWhile (· ≠ '\n') <:+: line
      ∧ ('\n' ∈ snippet → snippet.takeWhile (· ≠ '\n') <:+ line) := by
  obtain ⟨before, after, rfl, rfl⟩ := h
  obtain ⟨first, hline⟩ := exists_getElem?_lines before (snippet ++ after)
  rw [List.take_left]
  refine ⟨_, hline, ?_⟩
  rw [List.takeWhile_append]
  split
  . next hlength =>
    have hwhole := (List.takeWhile_prefix (· ≠ '\n')).eq_of_length hlength
    rw [hwhole]
    refine ⟨⟨first, after.takeWhile (· ≠ '\n'), List.append_assoc ..⟩, fun hfeed => ?_⟩
    rw [← hwhole] at hfeed
    simpa using List.mem_takeWhile_imp hfeed
  . exact ⟨(List.suffix_append first _).isInfix, fun _ => List.suffix_append first _⟩

end MarkdownIntake.Text
