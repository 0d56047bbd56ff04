import MarkdownIntake.Proofs.Review.Remarks
import MarkdownIntake.Proofs.Text.Lines
import Mathlib.Order.Basic

/-!
This module contains what the limits of a review decide: whether the document has too many long lines. An
entry on them comes last among the warnings and the checks, and nothing else depends on the limits.
-/

namespace MarkdownIntake.Review

open MarkdownIntake.Document MarkdownIntake.Number MarkdownIntake.Text

/-! ### Long lines -/

def TooManyLongLines (limits : Limits) (markdown : String) : Prop :=
  limits.longLineLimit
    < (markdown.toList.splitOn '\n').countP fun line => limits.maxLineLength < (line.length : Int)

theorem tooManyLongLines_iff (limits : Limits) (markdown : String) :
    TooManyLongLines limits markdown ↔ hasManyLongLines markdown limits = true := by
  rw [TooManyLongLines, hasManyLongLines, decide_eq_true_eq, longLines, lines, splitAt_eq_splitOn,
    List.countP_eq_length_filter]

theorem TooManyLongLines.anti {limits higher : Limits} {markdown : String}
    (hlength : limits.maxLineLength ≤ higher.maxLineLength)
    (hlimit : limits.longLineLimit ≤ higher.longLineLimit) (h : TooManyLongLines higher markdown) :
    TooManyLongLines limits markdown := by
  have hcount : ((markdown.toList.splitOn '\n').countP fun line =>
      higher.maxLineLength < (line.length : Int))
      ≤ (markdown.toList.splitOn '\n').countP fun line => limits.maxLineLength < (line.length : Int) := by
    apply List.countP_mono_left
    intro line _ hlong
    rw [decide_eq_true_eq] at hlong ⊢
    exact Int.lt_of_le_of_lt hlength hlong
  unfold TooManyLongLines at h ⊢
  omega

/-! ### The entry on long lines -/

def IsLongLineWarning (warning : String) : Prop :=
  ∃ (count : Nat) (bound : Int), warning = s!"{count} lines exceed {bound} characters"

def IsLongLineCheck (check : Check) : Prop :=
  ∃ (count : Nat) (bound : Int),
    check = ⟨.info, s!"{count} long lines (>{bound} chars) - may affect readability"⟩

theorem longLineRule_of_tooMany {limits : Limits} {markdown : String}
    (h : TooManyLongLines limits markdown) :
    ∃ warning check, IsLongLineWarning warning ∧ IsLongLineCheck check
      ∧ longLineRule markdown limits = { warnings := [warning], checks := [check] } := by
  rw [tooManyLongLines_iff] at h
  exact ⟨_, _, ⟨_, _, rfl⟩, ⟨_, _, rfl⟩, if_pos h⟩

theorem longLineRule_of_not_tooMany {limits : Limits} {markdown : String}
    (h : ¬ TooManyLongLines limits markdown) : longLineRule markdown limits = {} := by
  rw [tooManyLongLines_iff] at h
  exact if_neg h

/-! ### Bounds that cannot be told -/

/-- The entry on long lines is due, and the bound that it would tell has more than 4300 digits. -/
def UntellableEntry (limits : Limits) (markdown : String) : Prop :=
  limits.maxLineLength ≤ -leastUntellable ∧ TooManyLongLines limits markdown

theorem isTellable_min_iff (bound : Int) :
    isTellable (min bound 0) = true ↔ ¬ bound ≤ -leastUntellable := by
  have hpos := leastUntellable_pos
  rw [isTellable, decide_eq_true_eq]
  generalize leastUntellable = least at hpos ⊢
  omega

theorem canTellLongLines_iff (limits : Limits) (markdown : String) :
    canTellLongLines markdown limits = true ↔ ¬ UntellableEntry limits markdown := by
  rw [canTellLongLines, Bool.or_eq_true, isTellable_min_iff, UntellableEntry, tooManyLongLines_iff,
    not_and_or, Bool.not_eq_true', Bool.not_eq_true]

/-- The last character is enough to tell the entry on long lines from all others. -/
def LastIs (c : Char) (text : String) : Prop :=
  text.toList.getLast? = some c

theorem LastIs.append {c : Char} (text : String) (h : LastIs c text) (before : String) :
    LastIs c (before ++ text) := by
  rw [LastIs, String.toList_append, List.getLast?_append, h]
  rfl

theorem LastIs.unique {c d : Char} {text : String} (hc : LastIs c text) (hd : LastIs d text) : c = d :=
  Option.some.inj (hc.symm.trans hd)

theorem IsLongLineWarning.lastIs {warning : String} (h : IsLongLineWarning warning) :
    LastIs 's' warning := by
  obtain ⟨count, bound, rfl⟩ := h
  exact LastIs.append " characters" rfl _

theorem IsLongLineCheck.lastIs {check : Check} (h : IsLongLineCheck check) :
    LastIs 'y' check.message := by
  obtain ⟨count, bound, rfl⟩ := h
  exact LastIs.append " chars) - may affect readability" rfl _

theorem LastIs.not_isLongLineWarning {c : Char} {warning : String} (h : LastIs c warning)
    (hc : c ≠ 's') : ¬ IsLongLineWarning warning :=
  fun hlong => hc (h.unique hlong.lastIs)

theorem LastIs.not_isLongLineCheck {c : Char} {check : Check} (h : LastIs c check.message)
    (hc : c ≠ 'y') : ¬ IsLongLineCheck check :=
  fun hlong => hc (h.unique hlong.lastIs)

structure Remarks.NoLongLines (remarks : Remarks) : Prop where
  warnings : ∀ warning ∈ remarks.warnings, ¬ IsLongLineWarning warning
  checks : ∀ check ∈ remarks.checks, ¬ IsLongLineCheck check

theorem Remarks.NoLongLines.append {a b : Remarks} (ha : a.NoLongLines) (hb : b.NoLongLines) :
    (a ++ b).NoLongLines where
  warnings := List.forall_mem_append.mpr ⟨ha.warnings, hb.warnings⟩
  checks := List.forall_mem_append.mpr ⟨ha.checks, hb.checks⟩

theorem noLongLines_headingRule (markdown : String) (forest : List Node) :
    (headingRule markdown forest).NoLongLines := by
  simp only [headingRule]
  split
  . refine ⟨List.forall_mem_nil _, List.forall_mem_singleton.mpr ?_⟩
    exact LastIs.not_isLongLineCheck (c := ')') rfl (by decide)
  . split
    . refine ⟨List.forall_mem_nil _, List.forall_mem_singleton.mpr ?_⟩
      exact LastIs.not_isLongLineCheck (c := 'd') rfl (by decide)
    . refine ⟨List.forall_mem_singleton.mpr ?_, List.forall_mem_singleton.mpr ?_⟩
      . exact LastIs.not_isLongLineWarning (.append ")" rfl _) (by decide)
      . exact LastIs.not_isLongLineCheck (.append ") - consider using only one" rfl _)
          (by decide)

theorem not_isLongLineCheck_of_mem_pass {nodes : List Node} {check : Check} {c : Char} {text : String}
    (htext : LastIs c text) (hc : c ≠ 'y')
    (h : check ∈ if nodes.isEmpty then [] else [⟨.pass, text⟩]) : ¬ IsLongLineCheck check := by
  split at h
  . cases h
  . rw [List.mem_singleton.mp h]
    exact htext.not_isLongLineCheck hc

theorem noLongLines_brokenImageRule (markdown : String) (images : List Node) :
    (brokenImageRule markdown images).NoLongLines := by
  simp only [brokenImageRule]
  split
  . exact ⟨List.forall_mem_nil _, fun _ => not_isLongLineCheck_of_mem_pass (c := 's') rfl (by decide)⟩
  . refine ⟨List.forall_mem_nil _, List.forall_mem_singleton.mpr ?_⟩
    exact LastIs.not_isLongLineCheck (.append " broken image link(s)" rfl _) (by decide)

theorem noLongLines_missingAltRule (markdown : String) (images : List Node) :
    (missingAltRule markdown images).NoLongLines := by
  simp only [missingAltRule]
  split
  . exact ⟨List.forall_mem_nil _, fun _ => not_isLongLineCheck_of_mem_pass (c := 't') rfl (by decide)⟩
  . refine ⟨List.forall_mem_singleton.mpr ?_, List.forall_mem_singleton.mpr ?_⟩
    . exact LastIs.not_isLongLineWarning (.append " image(s) missing alt text" rfl _)
        (by decide)
    . exact LastIs.not_isLongLineCheck
        (.append " image(s) missing alt text (accessibility concern)" rfl _) (by decide)

theorem noLongLines_brokenLinkRule (markdown : String) (links : List Node) :
    (brokenLinkRule markdown links).NoLongLines := by
  simp only [brokenLinkRule]
  split
  . exact ⟨List.forall_mem_nil _, fun _ => not_isLongLineCheck_of_mem_pass (c := 's') rfl (by decide)⟩
  . refine ⟨List.forall_mem_nil _, List.forall_mem_singleton.mpr ?_⟩
    exact LastIs.not_isLongLineCheck (.append " broken link(s)" rfl _) (by decide)

theorem noLongLines_externalImageRule (images : List Node) :
    (externalImageRule images).NoLongLines := by
  simp only [externalImageRule]
  split
  . exact ⟨List.forall_mem_nil _, List.forall_mem_nil _⟩
  . refine ⟨List.forall_mem_singleton.mpr ?_, List.forall_mem_singleton.mpr ?_⟩
    . exact LastIs.not_isLongLineWarning
        (.append " external image(s) - consider hosting in Contentful" rfl _) (by decide)
    . exact LastIs.not_isLongLineCheck
        (.append " external image(s) - consider uploading to Contentful assets" rfl _)
        (by decide)

def otherRemarks (markdown : String) (forest : List Node) : Remarks :=
  let images := surfaceImages forest
  headingRule markdown forest ++ brokenImageRule markdown images ++ missingAltRule markdown images
    ++ brokenLinkRule markdown (links forest) ++ externalImageRule images

theorem remarks_eq_otherRemarks_append (markdown : String) (limits : Limits) (forest : List Node) :
    remarks markdown limits forest = otherRemarks markdown forest ++ longLineRule markdown limits := rfl

theorem noLongLines_otherRemarks (markdown : String) (forest : List Node) :
    (otherRemarks markdown forest).NoLongLines := by
  refine .append (.append (.append (.append (noLongLines_headingRule markdown forest) ?_) ?_) ?_) ?_
  . exact noLongLines_brokenImageRule markdown _
  . exact noLongLines_missingAltRule markdown _
  . exact noLongLines_brokenLinkRule markdown _
  . exact noLongLines_externalImageRule _

/-! ### Reviews -/

def Assessment.HasLongLineEntry (assessment : Assessment) : Prop :=
  (∃ warning ∈ assessment.warnings, IsLongLineWarning warning)
    ∧ ∃ check ∈ assessment.checks, IsLongLineCheck check

/--
The warnings and checks of a review: the given ones, and after them an entry on long lines if the document
has too many.
-/
structure EntryLast (limits : Limits) (markdown : String) (warnings : List String)
    (checks : List Check) (assessment : Assessment) : Prop where
  has_iff : assessment.HasLongLineEntry ↔ TooManyLongLines limits markdown
  present : TooManyLongLines limits markdown →
    ∃ warning check, IsLongLineWarning warning ∧ IsLongLineCheck check
      ∧ assessment.warnings = warnings ++ [warning] ∧ assessment.checks = checks ++ [check]
  absent : ¬ TooManyLongLines limits markdown →
    assessment.warnings = warnings ∧ assessment.checks = checks

theorem entryLast_of_remarks (limits : Limits) {markdown : String} {others : Remarks}
    (hothers : others.NoLongLines) (assessment : Assessment)
    (h : assessment.remarks = others ++ longLineRule markdown limits) :
    EntryLast limits markdown others.warnings others.checks assessment := by
  have hpresent : TooManyLongLines limits markdown →
      ∃ warning check, IsLongLineWarning warning ∧ IsLongLineCheck check
        ∧ assessment.warnings = others.warnings ++ [warning]
        ∧ assessment.checks = others.checks ++ [check] := by
    intro hmany
    obtain ⟨warning, check, hwarning, hcheck, hrule⟩ := longLineRule_of_tooMany hmany
    refine ⟨warning, check, hwarning, hcheck, ?_, ?_⟩
    . rw [Assessment.warnings, h, hrule, warnings_append]
    . rw [Assessment.checks, h, hrule, checks_append]
  have habsent : ¬ TooManyLongLines limits markdown →
      assessment.warnings = others.warnings ∧ assessment.checks = others.checks := by
    intro hfew
    rw [Assessment.warnings, Assessment.checks, h, longLineRule_of_not_tooMany hfew, warnings_append,
      checks_append, List.append_nil, List.append_nil]
    exact ⟨rfl, rfl⟩
  refine ⟨⟨?_, ?_⟩, hpresent, habsent⟩
  . rintro ⟨⟨warning, hmem, hwarning⟩, -⟩
    by_contra hfew
    rw [(habsent hfew).1] at hmem
    exact hothers.warnings warning hmem hwarning
  . intro hmany
    obtain ⟨warning, check, hwarning, hcheck, hwarnings, hchecks⟩ := hpresent hmany
    exact ⟨⟨warning, by simp [hwarnings], hwarning⟩, check, by simp [hchecks], hcheck⟩

structure SameButLongLines (limits otherLimits : Limits) (markdown : String)
    (assessment other : Assessment) : Prop where
  success : other.success = assessment.success
  title : other.title = assessment.title
  metrics : other.metrics = assessment.metrics
  parsed : other.parsed = assessment.parsed
  parseError : other.parseError = assessment.parseError
  census : other.census = assessment.census
  issues : other.issues = assessment.issues
  findings : other.findings = assessment.findings
  advice : ∃ warnings checks,
    (∀ warning ∈ warnings, ¬ IsLongLineWarning warning) ∧ (∀ check ∈ checks, ¬ IsLongLineCheck check)
      ∧ EntryLast limits markdown warnings checks assessment
      ∧ EntryLast otherLimits markdown warnings checks other
  anti : limits.maxLineLength ≤ otherLimits.maxLineLength →
    limits.longLineLimit ≤ otherLimits.longLineLimit →
    other.HasLongLineEntry → assessment.HasLongLineEntry

end MarkdownIntake.Review
