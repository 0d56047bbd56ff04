/-!
This module contains code points and the texts that are made of them. A surrogate is a code point that is
no character, but a high one and a low one side by side stand for a character beyond 16 bits.
-/

namespace MarkdownIntake.Text

structure CodePoint where
  value : Nat
  isLt : value < 0x110000
deriving Repr, DecidableEq

namespace CodePoint

theorem toNat_cases (c : Char) : c.toNat < 0xD800 ∨ 0xDFFF < c.toNat ∧ c.toNat < 0x110000 :=
  c.valid

def ofChar (c : Char) : CodePoint :=
  ⟨c.toNat, by have := toNat_cases c; omega⟩

def ofNat? (n : Nat) : Option CodePoint :=
  if h : n < 0x110000 then some ⟨n, h⟩ else none

def char? (p : CodePoint) : Option Char :=
  if h : p.value.isValidChar then some (Char.ofNatAux p.value h) else none

def isHigh (p : CodePoint) : Bool :=
  0xD800 ≤ p.value && p.value < 0xDC00

def isLow (p : CodePoint) : Bool :=
  0xDC00 ≤ p.value && p.value < 0xE000

/-- What a pair stands for; each surrogate holds ten bits of it. -/
def ofPair (high low : CodePoint) : CodePoint :=
  ⟨0x10000 + high.value % 1024 * 1024 + low.value % 1024, by omega⟩

theorem isHigh_iff {p : CodePoint} : p.isHigh = true ↔ 0xD800 ≤ p.value ∧ p.value < 0xDC00 := by
  rw [isHigh, Bool.and_eq_true_iff, decide_eq_true_iff, decide_eq_true_iff]

theorem isLow_iff {p : CodePoint} : p.isLow = true ↔ 0xDC00 ≤ p.value ∧ p.value < 0xE000 := by
  rw [isLow, Bool.and_eq_true_iff, decide_eq_true_iff, decide_eq_true_iff]

theorem char?_ofChar (c : Char) : (ofChar c).char? = some c := by
  have hvalid : (ofChar c).value.isValidChar := c.valid
  rw [char?, dif_pos hvalid]
  rfl

theorem eq_ofChar_of_char? {p : CodePoint} {c : Char} (h : p.char? = some c) : p = ofChar c := by
  by_cases hvalid : p.value.isValidChar
  . rw [char?, dif_pos hvalid] at h
    cases h
    rfl
  . rw [char?, dif_neg hvalid] at h
    cases h

theorem lt_of_char?_eq_none {p : CodePoint} (h : p.char? = none) : p.value < 0x10000 := by
  by_cases hvalid : p.value.isValidChar
  . rw [char?, dif_pos hvalid] at h
    cases h
  . have hlt := p.isLt
    rw [Nat.isValidChar] at hvalid
    omega

theorem isHigh_ofChar (c : Char) : (ofChar c).isHigh = false := by
  have hcases : (ofChar c).value < 0xD800 ∨ 0xDFFF < (ofChar c).value ∧ (ofChar c).value < 0x110000 :=
    toNat_cases c
  refine Bool.eq_false_iff.mpr fun h => ?_
  have hmost := isHigh_iff.mp h
  omega

end CodePoint

/-- The code points of a text with every pair of surrogates as the one that it stands for. -/
def joinPairs : List CodePoint → List CodePoint
  | high :: low :: rest =>
    if high.isHigh && low.isLow then .ofPair high low :: joinPairs rest
    else high :: joinPairs (low :: rest)
  | points => points

/-- The characters of a text. One surrogate alone is none, and the replacement character stands for it. -/
def charsOfPoints (points : List CodePoint) : List Char :=
  (joinPairs points).map (·.char?.getD '\uFFFD')

theorem joinPairs_map_ofChar (cs : List Char) :
    joinPairs (cs.map CodePoint.ofChar) = cs.map CodePoint.ofChar := by
  induction cs with
  | nil => rfl
  | cons c cs ih =>
    cases cs with
    | nil => rfl
    | cons d cs =>
      rw [List.map_cons, List.map_cons, joinPairs, CodePoint.isHigh_ofChar, Bool.false_and,
        if_neg Bool.false_ne_true, ← List.map_cons, ih]

/-- A type of texts, each of which is given by its code points. -/
class Spelled (α : Type) where
  points : α → List CodePoint
  ofPoints? : List CodePoint → Option α
  ofString : String → α
  ofPoints?_points (text : α) : ofPoints? (points text) = some text
  points_of_ofPoints? {ps : List CodePoint} {text : α} : ofPoints? ps = some text → points text = ps
  points_ofString (s : String) : points (ofString s) = s.toList.map CodePoint.ofChar
  isSome_ofPoints?_joinPairs (text : α) : (ofPoints? (joinPairs (points text))).isSome

namespace Spelled

def joined {α : Type} [Spelled α] (text : α) : α :=
  (ofPoints? (joinPairs (points text))).get (isSome_ofPoints?_joinPairs text)

end Spelled

theorem mapM_char?_map_ofChar (cs : List Char) :
    (cs.map CodePoint.ofChar).mapM CodePoint.char? = some cs := by
  induction cs with
  | nil => rfl
  | cons c cs ih => simp [CodePoint.char?_ofChar, ih]

theorem map_ofChar_of_mapM_char? {ps : List CodePoint} {cs : List Char}
    (h : ps.mapM CodePoint.char? = some cs) : cs.map CodePoint.ofChar = ps := by
  induction ps generalizing cs with
  | nil =>
    cases h
    rfl
  | cons p ps ih =>
    simp only [List.mapM_cons, Option.bind_eq_bind, Option.bind_eq_some_iff, Option.pure_def,
      Option.some.injEq] at h
    obtain ⟨c, hc, cs, hcs, rfl⟩ := h
    rw [List.map_cons, ih hcs, CodePoint.eq_ofChar_of_char? hc]

instance : Spelled String where
  points s := s.toList.map CodePoint.ofChar
  ofPoints? ps := (ps.mapM CodePoint.char?).map String.ofList
  ofString s := s
  ofPoints?_points s := by
    rw [mapM_char?_map_ofChar, Option.map_some, String.ofList_toList]
  points_of_ofPoints? h := by
    obtain ⟨cs, hcs, rfl⟩ := Option.map_eq_some_iff.mp h
    rw [String.toList_ofList, map_ofChar_of_mapM_char? hcs]
  points_ofString _ := rfl
  isSome_ofPoints?_joinPairs s := by
    rw [joinPairs_map_ofChar, mapM_char?_map_ofChar]
    rfl

instance : Spelled (List CodePoint) where
  points ps := ps
  ofPoints? ps := some ps
  ofString s := s.toList.map CodePoint.ofChar
  ofPoints?_points _ := rfl
  points_of_ofPoints? h := (Option.some.inj h).symm
  points_ofString _ := rfl
  isSome_ofPoints?_joinPairs _ := rfl

namespace Spelled

variable {α : Type} [Spelled α]

theorem points_joined (text : α) : points (joined text) = joinPairs (points text) :=
  points_of_ofPoints? (Option.some_get _).symm

theorem points_injective {text other : α} (h : points text = points other) : text = other := by
  have htext := ofPoints?_points text
  rw [h, ofPoints?_points] at htext
  exact (Option.some.inj htext).symm

theorem joined_ofString (s : String) : joined (ofString s : α) = ofString s := by
  refine points_injective ?_
  rw [points_joined, points_ofString, joinPairs_map_ofChar]

@[simp]
theorem ofString_string (s : String) : (ofString s : String) = s :=
  rfl

theorem joined_string (s : String) : joined s = s :=
  joined_ofString s

end Spelled

end MarkdownIntake.Text
