import MarkdownIntake.Proofs.Review.Remarks
import Mathlib.Algebra.BigOperators.Group.List.Basic
import Mathlib.Algebra.GroupWithZero.Nat
import Mathlib.Data.List.Induction
import Mathlib.Data.List.Sort

/-!
This module contains what the numbers of a census count: the levels of headings in ascending order, the
languages of blocks of code in the order of their first occurrence, and the elements on the surface of a
document and at any depth.
-/

namespace MarkdownIntake.Review

open MarkdownIntake.Document

/-! ### Levels -/

theorem countLevel_cases (level : Option Int) (counts : List (Option Int × Nat)) :
    (∃ before count after, counts = before ++ (level, count) :: after
      ∧ countLevel level counts = before ++ (level, count + 1) :: after)
      ∨ (level ∉ counts.map (·.1) ∧ countLevel level counts = counts ++ [(level, 1)]) := by
  induction counts with
  | nil => exact .inr ⟨List.not_mem_nil, rfl⟩
  | cons entry rest ih =>
    obtain ⟨other, count⟩ := entry
    by_cases hlevel : other = level
    . subst hlevel
      exact .inl ⟨[], count, rest, rfl, by simp [countLevel]⟩
    . rcases ih with ⟨before, found, after, hrest, hcounted⟩ | ⟨hnew, hcounted⟩
      . refine .inl ⟨(other, count) :: before, found, after, ?_, ?_⟩
        . rw [hrest, List.cons_append]
        . rw [countLevel, if_neg hlevel, hcounted, List.cons_append]
      . refine .inr ⟨?_, ?_⟩
        . simpa [Ne.symm hlevel] using hnew
        . rw [countLevel, if_neg hlevel, hcounted, List.cons_append]

/-- Each level that occurs is counted once, with the number of its occurrences. -/
structure Tallies (levels : List (Option Int)) (counts : List (Option Int × Nat)) : Prop where
  nodup : (counts.map (·.1)).Nodup
  mem_iff : ∀ level, level ∈ counts.map (·.1) ↔ level ∈ levels
  count_eq : ∀ entry ∈ counts, entry.2 = levels.count entry.1
  sum_eq : (counts.map (·.2)).sum = levels.length

theorem Tallies.perm {levels : List (Option Int)} {counts others : List (Option Int × Nat)}
    (h : Tallies levels counts) (hperm : others.Perm counts) : Tallies levels others where
  nodup := (hperm.map _).nodup_iff.mpr h.nodup
  mem_iff := fun level => (hperm.map _).mem_iff.trans (h.mem_iff level)
  count_eq := fun entry hentry => h.count_eq entry (hperm.mem_iff.mp hentry)
  sum_eq := (hperm.map _).sum_eq.trans h.sum_eq

theorem count_concat_of_ne {level other : Option Int} (h : other ≠ level) (levels : List (Option Int)) :
    (levels ++ [level]).count other = levels.count other := by
  rw [List.count_append, List.count_singleton, beq_false_of_ne (Ne.symm h)]
  rfl

theorem Tallies.again {levels : List (Option Int)} {before after : List (Option Int × Nat)}
    {level : Option Int} {count : Nat} (h : Tallies levels (before ++ (level, count) :: after)) :
    Tallies (levels ++ [level]) (before ++ (level, count + 1) :: after) where
  nodup := by simpa using h.nodup
  mem_iff := by
    intro other
    have hlevel : level ∈ levels := (h.mem_iff level).mp (by simp)
    rw [List.mem_append, List.mem_singleton, ← h.mem_iff other]
    simp only [List.map_append, List.map_cons, List.mem_append, List.mem_cons]
    grind
  count_eq := by
    intro entry hentry
    rw [List.mem_append, List.mem_cons] at hentry
    have hnodup := h.nodup
    rw [List.map_append, List.map_cons, List.nodup_middle, List.nodup_cons, ← List.map_append]
      at hnodup
    have hothers : entry ∈ before ++ after → entry.2 = (levels ++ [level]).count entry.1 := by
      intro hmem
      have hne : entry.1 ≠ level :=
        fun heq => hnodup.1 (List.mem_map.mpr ⟨entry, hmem, heq⟩)
      rw [count_concat_of_ne hne]
      apply h.count_eq
      rw [List.mem_append] at hmem
      exact List.mem_append.mpr (hmem.imp_right (List.mem_cons_of_mem _))
    rcases hentry with hmem | rfl | hmem
    . exact hothers (List.mem_append_left _ hmem)
    . rw [List.count_append, List.count_singleton_self, ← h.count_eq (level, count) (by simp)]
    . exact hothers (List.mem_append_right _ hmem)
  sum_eq := by
    have hsum := h.sum_eq
    simp only [List.map_append, List.map_cons, List.sum_append, List.sum_cons, List.length_append,
      List.length_singleton] at hsum ⊢
    omega

theorem Tallies.first {levels : List (Option Int)} {counts : List (Option Int × Nat)}
    (h : Tallies levels counts) {level : Option Int} (hnew : level ∉ counts.map (·.1)) :
    Tallies (levels ++ [level]) (counts ++ [(level, 1)]) where
  nodup := by
    rw [List.map_append, List.map_singleton]
    exact List.nodup_append.mpr ⟨h.nodup, List.nodup_singleton _, by grind⟩
  mem_iff := by
    intro other
    rw [List.map_append, List.map_singleton, List.mem_append, List.mem_append, h.mem_iff other]
  count_eq := by
    rw [List.forall_mem_append, List.forall_mem_singleton]
    refine ⟨?_, ?_⟩
    . intro entry hentry
      have hne : entry.1 ≠ level :=
        fun heq => hnew (List.mem_map.mpr ⟨entry, hentry, heq⟩)
      rw [count_concat_of_ne hne, h.count_eq entry hentry]
    . rw [h.mem_iff level] at hnew
      rw [List.count_append, List.count_singleton_self, List.count_eq_zero.mpr hnew]
  sum_eq := by
    rw [List.map_append, List.sum_append, h.sum_eq, List.length_append]
    rfl

theorem Tallies.countLevel {levels : List (Option Int)} {counts : List (Option Int × Nat)}
    (h : Tallies levels counts) (level : Option Int) :
    Tallies (levels ++ [level]) (countLevel level counts) := by
  rcases countLevel_cases level counts with ⟨before, count, after, rfl, hcounted⟩ | ⟨hnew, hcounted⟩
  . rw [hcounted]
    exact h.again
  . rw [hcounted]
    exact h.first hnew

theorem tallies_foldl {levels : List (Option Int)} {counts : List (Option Int × Nat)}
    (h : Tallies levels counts) (headings : List Node) :
    Tallies (levels ++ headings.map (·.depth))
      (headings.foldl (fun counts heading => countLevel heading.depth counts) counts) := by
  induction headings generalizing levels counts with
  | nil => simpa using h
  | cons heading rest ih =>
    rw [List.map_cons, List.append_cons, List.foldl_cons]
    exact ih (h.countLevel heading.depth)

def LevelLE (a b : Option Int × Nat) : Prop :=
  a.1.getD 0 ≤ b.1.getD 0

instance : DecidableRel LevelLE :=
  fun a b => inferInstanceAs (Decidable (a.1.getD 0 ≤ b.1.getD 0))

instance : IsTrans _ LevelLE :=
  ⟨fun _ _ _ => Int.le_trans⟩

instance : Std.Total LevelLE :=
  ⟨fun _ _ => Int.le_total _ _⟩

theorem insertLevel_eq_orderedInsert (entry : Option Int × Nat) (counts : List (Option Int × Nat)) :
    insertLevel entry counts = counts.orderedInsert LevelLE entry := by
  induction counts with
  | nil => rfl
  | cons other rest ih =>
    rw [insertLevel, List.orderedInsert_cons, ih]
    rfl

theorem headingLevels_eq_insertionSort (headings : List Node) :
    headingLevels headings
      =
    (headings.foldl (fun counts heading => countLevel heading.depth counts) []).insertionSort
      LevelLE := by
  rw [headingLevels, funext₂ insertLevel_eq_orderedInsert]
  rfl

theorem tallies_headingLevels (headings : List Node) :
    Tallies (headings.map (·.depth)) (headingLevels headings) := by
  have hnone : Tallies [] [] := ⟨List.nodup_nil, fun _ => .rfl, nofun, rfl⟩
  rw [headingLevels_eq_insertionSort]
  exact (tallies_foldl hnone headings).perm (List.perm_insertionSort LevelLE _)

def Ascends (a b : Option Int × Nat) : Prop :=
  ∃ low high, a.1 = some low ∧ b.1 = some high ∧ low < high

theorem pairwise_ascends_headingLevels {headings : List Node}
    (h : levelsComparable (headingLevels headings) = true) :
    (headingLevels headings).Pairwise Ascends := by
  have hsorted : (headingLevels headings).Pairwise LevelLE := by
    rw [headingLevels_eq_insertionSort]
    exact List.pairwise_insertionSort LevelLE _
  have hdistinct := List.pairwise_map.mp (tallies_headingLevels headings).nodup
  rw [levelsComparable, Bool.or_eq_true, decide_eq_true_eq, List.all_eq_true] at h
  rcases h with h | h
  . -- A missing level is not compared if it is the only one.
    match headingLevels headings, h with
    | [], _ => exact .nil
    | [entry], _ => exact List.pairwise_singleton Ascends entry
  . refine (hsorted.and hdistinct).imp_of_mem ?_
    rintro ⟨first, _⟩ ⟨second, _⟩ hfirst hsecond ⟨hle, hne⟩
    obtain ⟨low, rfl⟩ := Option.isSome_iff_exists.mp (h _ hfirst)
    obtain ⟨high, rfl⟩ := Option.isSome_iff_exists.mp (h _ hsecond)
    refine ⟨low, high, rfl, rfl, lt_of_le_of_ne hle ?_⟩
    rintro rfl
    exact hne rfl

/-! ### Languages -/

/-- The labels without repetitions, in the order of their first occurrence. -/
structure FirstOccurrences (labels listed : List String) : Prop where
  mem_iff : ∀ label, label ∈ listed ↔ label ∈ labels
  ordered : listed.Pairwise fun a b => labels.idxOf a < labels.idxOf b

theorem FirstOccurrences.nodup {labels listed : List String} (h : FirstOccurrences labels listed) :
    listed.Nodup :=
  h.ordered.imp fun hlt heq => absurd hlt (by rw [heq]; exact Nat.lt_irrefl _)

theorem FirstOccurrences.length_le {labels listed : List String} (h : FirstOccurrences labels listed) :
    listed.length ≤ labels.length :=
  (List.subperm_of_subset h.nodup fun label => (h.mem_iff label).mp).length_le

theorem firstOccurrences_foldl_addNew (labels : List String) :
    FirstOccurrences labels (labels.foldl addNew []) := by
  induction labels using List.reverseRecOn with
  | nil => exact ⟨fun _ => .rfl, .nil⟩
  | append_singleton labels label ih =>
    rw [List.foldl_append, List.foldl_cons, List.foldl_nil, addNew]
    -- The index of a label does not change once it has occurred.
    have hordered : (labels.foldl addNew []).Pairwise fun a b =>
        (labels ++ [label]).idxOf a < (labels ++ [label]).idxOf b := by
      refine ih.ordered.imp_of_mem ?_
      intro a b ha hb hlt
      rwa [List.idxOf_append_of_mem ((ih.mem_iff a).mp ha),
        List.idxOf_append_of_mem ((ih.mem_iff b).mp hb)]
    split
    . next hold =>
      rw [List.contains_iff_mem, ih.mem_iff] at hold
      refine ⟨fun other => ?_, hordered⟩
      rw [ih.mem_iff, List.mem_append, List.mem_singleton]
      exact ⟨.inl, fun h => h.elim id (· ▸ hold)⟩
    . next hnew =>
      rw [List.contains_iff_mem, ih.mem_iff] at hnew
      refine ⟨fun other => ?_, List.pairwise_append.mpr ⟨hordered, List.pairwise_singleton _ _, ?_⟩⟩
      . rw [List.mem_append, List.mem_append, ih.mem_iff]
      . intro other hother last hlast
        have hmem := (ih.mem_iff other).mp hother
        rw [List.mem_singleton.mp hlast, List.idxOf_append_of_mem hmem,
          List.idxOf_append_of_notMem hnew]
        exact Nat.lt_add_right _ (List.idxOf_lt_length_of_mem hmem)

/-! ### Elements -/

theorem sum_length_filter_is_le (kinds : List String) (h : kinds.Nodup) (forest : List Node) :
    (kinds.map fun kind => (forest.filter (·.is kind)).length).sum ≤ forest.length := by
  induction kinds generalizing forest with
  | nil => simp
  | cons kind kinds ih =>
    obtain ⟨hkind, hkinds⟩ := List.nodup_cons.mp h
    -- The nodes of the other kinds are among the ones that are not of this kind.
    have hothers : ∀ other ∈ kinds, forest.filter (·.is other)
        = (forest.filter (!·.is kind)).filter (·.is other) := by
      intro other hother
      rw [List.filter_filter]
      apply List.filter_congr
      intro node _
      have hne : kind ≠ other := fun heq => hkind (heq ▸ hother)
      simp only [Node.is]
      grind
    have hsum := ih hkinds (forest.filter (!·.is kind))
    rw [List.map_cons, List.sum_cons, List.map_congr_left fun other hother =>
      congrArg List.length (hothers other hother),
      List.length_eq_length_filter_add (l := forest) (·.is kind)]
    omega

/-! ### The census -/

def codeLabel (node : Node) : String :=
  (node.lang.filter (· ≠ "")).getD "no-lang"

def codeLabels (forest : List Node) : List String :=
  (forest.filter (·.kind = "code")).map codeLabel

theorem languageLabel_eq_codeLabel (node : Node) : languageLabel node = codeLabel node := by
  unfold languageLabel codeLabel
  cases node.lang with
  | none => rfl
  | some lang =>
    by_cases hlang : lang = ""
    . subst hlang
      rfl
    . simp [Option.filter, hlang]

theorem is_eq_decide (kind : String) : Node.is kind = fun node => decide (node.kind = kind) := by
  funext node
  rw [Bool.eq_iff_iff]
  simp [Node.is]

theorem map_languageLabel_filter_is (forest : List Node) :
    (forest.filter (·.is "code")).map languageLabel = codeLabels forest := by
  rw [codeLabels, funext languageLabel_eq_codeLabel, is_eq_decide]

/-- The numbers of a census, told by the nodes of the document. -/
structure CensusOf (forest : List Node) (census : Census) : Prop where
  ascending : census.headingLevels.Pairwise Ascends
  exists_mem_levels_iff : ∀ level, (∃ count, (level, count) ∈ census.headingLevels)
    ↔ ∃ node ∈ forest, node.kind = "heading" ∧ node.depth = level
  count_of_level : ∀ level count, (level, count) ∈ census.headingLevels →
    0 < count ∧ count = forest.countP fun node => node.kind = "heading" ∧ node.depth = level
  sum_levels : (census.headingLevels.map (·.2)).sum = census.headings
  languages_nodup : census.languages.Nodup
  languages : FirstOccurrences (codeLabels forest) census.languages
  codeBlocks_eq : census.codeBlocks = (codeLabels forest).length
  length_languages_le : census.languages.length ≤ census.codeBlocks
  languages_eq_nil_iff : census.languages = [] ↔ census.codeBlocks = 0
  sum_le : census.headings + census.codeBlocks + census.tables + census.blockquotes + census.lists
    ≤ forest.length
  links_eq : census.links = countInside (·.kind = "link") forest
  images_le : census.images ≤ countInside (·.kind = "image") forest

theorem mem_map_depth_topHeadings_iff {forest : List Node} {level : Option Int} :
    level ∈ (topHeadings forest).map (·.depth)
      ↔
    ∃ node ∈ forest, node.kind = "heading" ∧ node.depth = level := by
  simp [topHeadings, is_eq_decide, and_assoc]

theorem count_map_depth_topHeadings (forest : List Node) (level : Option Int) :
    ((topHeadings forest).map (·.depth)).count level
      =
    forest.countP fun node => node.kind = "heading" ∧ node.depth = level := by
  rw [topHeadings, List.count, List.countP_map, List.countP_filter]
  apply List.countP_congr
  intro node _
  simp [Node.is, and_comm]

theorem censusOf_census {forest : List Node}
    (h : levelsComparable (census forest).headingLevels = true) : CensusOf forest (census forest) := by
  have htallies : Tallies ((topHeadings forest).map (·.depth)) (census forest).headingLevels :=
    tallies_headingLevels (topHeadings forest)
  have hlanguages : FirstOccurrences (codeLabels forest) (census forest).languages := by
    have hlisted := firstOccurrences_foldl_addNew (codeLabels forest)
    rwa [← map_languageLabel_filter_is] at hlisted ⊢
  have hcode : (census forest).codeBlocks = (codeLabels forest).length := by
    rw [← map_languageLabel_filter_is, List.length_map]
    rfl
  have hmem : ∀ level, (∃ count, (level, count) ∈ (census forest).headingLevels)
      ↔ ∃ node ∈ forest, node.kind = "heading" ∧ node.depth = level := by
    intro level
    rw [← mem_map_depth_topHeadings_iff, ← htallies.mem_iff]
    simp
  exact {
    ascending := pairwise_ascends_headingLevels h
    exists_mem_levels_iff := hmem
    count_of_level := by
      intro level count hcount
      obtain ⟨node, hnode, hkind, hlevel⟩ := (hmem level).mp ⟨count, hcount⟩
      have heq := (htallies.count_eq _ hcount).trans (count_map_depth_topHeadings forest level)
      refine ⟨?_, heq⟩
      rw [show count = _ from heq, List.countP_pos_iff]
      exact ⟨node, hnode, by simp [hkind, hlevel]⟩
    sum_levels := by
      rw [htallies.sum_eq, List.length_map]
      rfl
    languages_nodup := hlanguages.nodup
    languages := hlanguages
    codeBlocks_eq := hcode
    length_languages_le := hcode ▸ hlanguages.length_le
    languages_eq_nil_iff := by
      rw [hcode, List.length_eq_zero_iff, List.eq_nil_iff_forall_not_mem,
        List.eq_nil_iff_forall_not_mem]
      exact forall_congr' fun label => not_congr (hlanguages.mem_iff label)
    sum_le := by
      have hsum : (census forest).headings + ((census forest).codeBlocks + ((census forest).tables
          + ((census forest).blockquotes + ((census forest).lists + 0)))) ≤ forest.length :=
        sum_length_filter_is_le ["heading", "code", "table", "blockquote", "list"]
          (by decide) forest
      omega
    links_eq := by
      rw [← countP_walk, List.countP_eq_length_filter, ← is_eq_decide]
      rfl
    images_le := by
      rw [← countP_walk, ← is_eq_decide]
      have hsublist := (surface_sublist_walk forest).filter (Node.is "image")
      rw [List.countP_eq_length_filter]
      exact hsublist.length_le }

theorem census_of_review {markdown title : String} {limits : Limits} {forest : List Node}
    {assessment : Assessment} {census : Census}
    (h : review markdown title limits (.ok forest) = .ok assessment)
    (hcensus : assessment.census = some census) : CensusOf forest census := by
  obtain ⟨hlevels, -, hassessment⟩ := review_eq_ok_iff.mp h
  rw [← hassessment, assessmentOf, Option.some.injEq] at hcensus
  exact hcensus ▸ censusOf_census hlevels

def mixedDocument : List Node :=
  [ { kind := "heading", depth := some 2 },
    { kind := "code", lang := some "py" },
    { kind := "code", lang := some "" },
    { kind := "heading", depth := some 1, children := [ { kind := "image" } ] },
    { kind := "code", lang := some "py" },
    { kind := "heading", depth := some 2 },
    { kind := "paragraph", children := [ { kind := "image" } ] },
    { kind := "list", children := [ { kind := "list_item", children := [ { kind := "link" } ] } ] } ]

theorem census_of_review_mixedDocument :
    ∃ assessment census, review "" "" {} (.ok mixedDocument) = .ok assessment
      ∧ assessment.census = some census
      ∧ census.headingLevels = [(some 1, 1), (some 2, 2)] ∧ census.languages = ["py", "no-lang"]
      ∧ census.links = 1 ∧ census.images = 1 ∧ CensusOf mixedDocument census := by
  have h := review_of_levelsComparable "" "" {} mixedDocument (by decide) (by decide +kernel)
  exact ⟨_, _, h, rfl, by decide +kernel, by decide +kernel, by decide +kernel, by decide +kernel, census_of_review h rfl⟩

end MarkdownIntake.Review
