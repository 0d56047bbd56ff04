import MarkdownIntake.Settings.Override

/-!
This module contains what the overrides of a run do to the settings: each of them changes its own
setting, and only the name of a format may be refused.
-/

namespace MarkdownIntake.Settings

open MarkdownIntake.Storage

def Overrides.KnowsFormat (overrides : Overrides) : Prop :=
  ∀ format ∈ overrides.format, format = "" ∨ format ∈ formats

theorem Overrides.KnowsFormat.exists_format? {overrides : Overrides} (h : overrides.KnowsFormat) :
    ∃ format?, overrides.format? = .ok format? := by
  unfold Overrides.format?
  cases hformat : overrides.format.filter (!·.isEmpty) with
  | none => exact ⟨none, rfl⟩
  | some format =>
    rw [Option.filter_eq_some_iff] at hformat
    obtain ⟨hgiven, hempty⟩ := hformat
    have hknown : format ∈ formats := (h format hgiven).resolve_left (by simpa using hempty)
    exact ⟨some format, by simp [hknown]⟩

section

variable {settings result : Settings} {environment : Environment} {overrides : Overrides}

theorem exists_effective (settings : Settings) (environment : Environment)
    (h : overrides.KnowsFormat) : ∃ result, settings.effective environment overrides = .ok result := by
  obtain ⟨format?, hformat⟩ := h.exists_format?
  exact ⟨_, by rw [effective, hformat]; rfl⟩

theorem of_effective (h : settings.effective environment overrides = .ok result) :
    result.limits = settings.limits
      ∧ result.timeout = overrides.timeout.getD settings.timeout
      ∧ (∃ format, result.output = { settings.output with format })
      ∧ result.entry = {
          spaceId := ((overrides.spaceId.filter (!·.isEmpty)).or
            (environment.nonempty? spaceVariable)).or settings.entry.spaceId
          environmentId := given overrides.environmentId
            (given (environment.get? environmentVariable) settings.entry.environmentId)
          contentType := given overrides.contentType settings.entry.contentType
          locale := given overrides.locale settings.entry.locale
          publish := overrides.publish.getD settings.entry.publish } := by
  cases hformat : overrides.format? with
  | error error =>
    rw [effective, hformat] at h
    cases h
  | ok format? =>
    rw [effective, hformat] at h
    cases h
    exact ⟨rfl, rfl, ⟨_, rfl⟩, rfl⟩

theorem errorsPath_of_effective (h : settings.effective environment overrides = .ok result) :
    result.errorsPath = settings.errorsPath := by
  obtain ⟨-, -, ⟨format, houtput⟩, -⟩ := of_effective h
  rw [errorsPath, houtput]
  rfl

theorem importPath_of_effective (h : settings.effective environment overrides = .ok result) :
    result.importPath = settings.importPath := by
  obtain ⟨-, -, ⟨format, houtput⟩, -⟩ := of_effective h
  rw [importPath, houtput]
  rfl

end

end MarkdownIntake.Settings
