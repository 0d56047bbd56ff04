import MarkdownIntake.Json.Value

/-!
This module contains what becomes of surrogates in a text that is written by its units of 16 bits: those
of one code point are joined again, and so are two code points of the text that happen to form a pair.
-/

namespace MarkdownIntake.Text

namespace CodePoint

theorem le_value_ofPair (high low : CodePoint) : 0x10000 ≤ (ofPair high low).value := by
  simp only [ofPair]
  omega

theorem isHigh_ofPair (high low : CodePoint) : (ofPair high low).isHigh = false := by
  refine Bool.eq_false_iff.mpr fun h => ?_
  have hleast := le_value_ofPair high low
  have hmost := isHigh_iff.mp h
  omega

theorem isLow_ofPair (high low : CodePoint) : (ofPair high low).isLow = false := by
  refine Bool.eq_false_iff.mpr fun h => ?_
  have hleast := le_value_ofPair high low
  have hmost := isLow_iff.mp h
  omega

theorem isLow_of_isHigh {p : CodePoint} (h : p.isHigh = true) : p.isLow = false := by
  refine Bool.eq_false_iff.mpr fun hlow => ?_
  have hmost := isHigh_iff.mp h
  have hleast := isLow_iff.mp hlow
  omega

end CodePoint

/-- The second text is the first one but for pairs of the first that are one code point of the second. -/
inductive Halved : List CodePoint → List CodePoint → Prop
  | nil : Halved [] []
  | whole (p : CodePoint) {units points : List CodePoint} (h : Halved units points) :
    Halved (p :: units) (p :: points)
  | pair {high low : CodePoint} (hhigh : high.isHigh = true) (hlow : low.isLow = true)
    {units points : List CodePoint} (h : Halved units points) :
    Halved (high :: low :: units) (.ofPair high low :: points)

theorem joinPairs_pair {high low : CodePoint} (hhigh : high.isHigh = true) (hlow : low.isLow = true)
    (rest : List CodePoint) : joinPairs (high :: low :: rest) = .ofPair high low :: joinPairs rest := by
  rw [joinPairs, hhigh, hlow, Bool.and_self, if_pos rfl]

theorem joinPairs_cons_of_isLow_eq_false {p q : CodePoint} (h : q.isLow = false)
    (rest : List CodePoint) : joinPairs (p :: q :: rest) = p :: joinPairs (q :: rest) := by
  rw [joinPairs, h, Bool.and_false, if_neg Bool.false_ne_true]

theorem joinPairs_of_halved {units points : List CodePoint} (h : Halved units points) :
    joinPairs units = joinPairs points := by
  induction points using joinPairs.induct generalizing units with
  | case1 high low rest hpair ih =>
    obtain ⟨hhigh, hlow⟩ := Bool.and_eq_true_iff.mp hpair
    rcases h with _ | ⟨_, h⟩ | ⟨_, _, h⟩
    . rcases h with _ | ⟨_, h⟩ | ⟨_, _, h⟩
      . rw [joinPairs_pair hhigh hlow, joinPairs_pair hhigh hlow, ih h]
      . rw [CodePoint.isLow_ofPair] at hlow
        cases hlow
    . rw [CodePoint.isHigh_ofPair] at hhigh
      cases hhigh
  | case2 high low rest hpair ih =>
    rw [joinPairs, if_neg hpair]
    rcases h with _ | ⟨_, h⟩ | ⟨hhigh, hlow, h⟩
    . rw [← ih h]
      rcases h with _ | ⟨_, h⟩ | ⟨hhigh, hlow, h⟩
      . rw [joinPairs, if_neg hpair]
      . exact joinPairs_cons_of_isLow_eq_false (CodePoint.isLow_of_isHigh hhigh) _
    . rw [joinPairs_pair hhigh hlow, ih h]
  | case3 points hshort =>
    rcases h with _ | ⟨p, h⟩ | ⟨hhigh, hlow, h⟩
    . rfl
    . rcases h with _ | ⟨q, h⟩ | ⟨hhigh, hlow, h⟩
      . rfl
      . exact absurd rfl (hshort _ _ _)
      . exact absurd rfl (hshort _ _ _)
    . rcases h with _ | ⟨q, h⟩ | ⟨_, _, h⟩
      . exact joinPairs_pair hhigh hlow []
      . exact absurd rfl (hshort _ _ _)
      . exact absurd rfl (hshort _ _ _)

def HasPair (points : List CodePoint) : Prop :=
  ∃ high low, high.isHigh = true ∧ low.isLow = true ∧ [high, low] <:+: points

theorem joinPairs_eq_self_iff {points : List CodePoint} : joinPairs points = points ↔ ¬ HasPair points := by
  induction points using joinPairs.induct with
  | case1 high low rest hpair ih =>
    obtain ⟨hhigh, hlow⟩ := Bool.and_eq_true_iff.mp hpair
    have hhas : HasPair (high :: low :: rest) :=
      ⟨high, low, hhigh, hlow, (List.prefix_append [high, low] rest).isInfix⟩
    refine iff_of_false (fun h => ?_) (not_not_intro hhas)
    rw [joinPairs_pair hhigh hlow] at h
    rw [← (List.cons.inj h).1, CodePoint.isHigh_ofPair] at hhigh
    cases hhigh
  | case2 p q rest hpair ih =>
    have hhas : HasPair (p :: q :: rest) ↔ HasPair (q :: rest) := by
      refine exists_congr fun high => exists_congr fun low => and_congr_right fun hhigh =>
        and_congr_right fun hlow => ?_
      rw [List.infix_cons_iff, or_iff_right]
      intro hprefix
      obtain ⟨hp, hprefix⟩ := List.cons_prefix_cons.mp hprefix
      obtain ⟨hq, -⟩ := List.cons_prefix_cons.mp hprefix
      rw [hp] at hhigh
      rw [hq] at hlow
      exact hpair (Bool.and_eq_true_iff.mpr ⟨hhigh, hlow⟩)
    rw [joinPairs, if_neg hpair, hhas, ← ih, List.cons.injEq, and_iff_right rfl]
  | case3 points hshort =>
    refine iff_of_true (joinPairs.eq_2 points hshort) ?_
    rintro ⟨high, low, -, -, before, after, rfl⟩
    cases before with
    | nil => exact hshort _ _ _ rfl
    | cons p before => cases before <;> exact hshort _ _ _ rfl

theorem Spelled.joined_eq_self_iff {α : Type} [Spelled α] {text : α} :
    joined text = text ↔ ¬ HasPair (points text) := by
  rw [← joinPairs_eq_self_iff, ← points_joined]
  exact ⟨congrArg points, points_injective⟩

end MarkdownIntake.Text

namespace MarkdownIntake.Json.Value

variable {σ τ : Type}

mutual

def map (f : σ → τ) : Value σ → Value τ
  | .null => .null
  | .bool b => .bool b
  | .int n => .int n
  | .real x => .real x
  | .str s => .str (f s)
  | .arr items => .arr (mapItems f items)
  | .obj members => .obj (mapMembers f members)

def mapItems (f : σ → τ) : List (Value σ) → List (Value τ)
  | [] => []
  | item :: rest => map f item :: mapItems f rest

def mapMembers (f : σ → τ) : List (String × Value σ) → List (String × Value τ)
  | [] => []
  | (name, value) :: rest => (name, map f value) :: mapMembers f rest

end

theorem mapItems_eq_map (f : σ → τ) (items : List (Value σ)) : mapItems f items = items.map (map f) := by
  induction items with
  | nil => rfl
  | cons item items ih => rw [mapItems, ih, List.map_cons]

theorem mapMembers_eq_map (f : σ → τ) (members : List (String × Value σ)) :
    mapMembers f members = members.map fun member => (member.1, map f member.2) := by
  induction members with
  | nil => rfl
  | cons member members ih => rw [mapMembers, ih, List.map_cons]

mutual

/-- The strings in a value, but for the names of members. -/
def texts : Value σ → List σ
  | .str s => [s]
  | .arr items => textsOfItems items
  | .obj members => textsOfMembers members
  | _ => []

def textsOfItems : List (Value σ) → List σ
  | [] => []
  | item :: rest => texts item ++ textsOfItems rest

def textsOfMembers : List (String × Value σ) → List σ
  | [] => []
  | (_, value) :: rest => texts value ++ textsOfMembers rest

end

mutual

theorem map_eq_self_iff (f : σ → σ) : ∀ v : Value σ, v.map f = v ↔ ∀ s ∈ v.texts, f s = s
  | .null => iff_of_true rfl (List.forall_mem_nil _)
  | .bool _ => iff_of_true rfl (List.forall_mem_nil _)
  | .int _ => iff_of_true rfl (List.forall_mem_nil _)
  | .real _ => iff_of_true rfl (List.forall_mem_nil _)
  | .str s => by rw [map, texts, Value.str.injEq, List.forall_mem_singleton]
  | .arr items => by rw [map, texts, Value.arr.injEq, mapItems_eq_self_iff]
  | .obj members => by rw [map, texts, Value.obj.injEq, mapMembers_eq_self_iff]

theorem mapItems_eq_self_iff (f : σ → σ) :
    ∀ items : List (Value σ), mapItems f items = items ↔ ∀ s ∈ textsOfItems items, f s = s
  | [] => iff_of_true rfl (List.forall_mem_nil _)
  | item :: rest => by
    rw [mapItems, textsOfItems, List.cons.injEq, map_eq_self_iff, mapItems_eq_self_iff,
      List.forall_mem_append]

theorem mapMembers_eq_self_iff (f : σ → σ) :
    ∀ members : List (String × Value σ),
      mapMembers f members = members ↔ ∀ s ∈ textsOfMembers members, f s = s
  | [] => iff_of_true rfl (List.forall_mem_nil _)
  | (name, value) :: rest => by
    rw [mapMembers, textsOfMembers, List.cons.injEq, Prod.mk.injEq, eq_self, true_and,
      map_eq_self_iff, mapMembers_eq_self_iff, List.forall_mem_append]

end

end MarkdownIntake.Json.Value
