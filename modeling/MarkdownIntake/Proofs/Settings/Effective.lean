import MarkdownIntake.Proofs.Settings.Layer
import MarkdownIntake.Proofs.Settings.Operation
import MarkdownIntake.Proofs.Settings.Override
import MarkdownIntake.Proofs.Storage.Environment

/-!
This module contains the settings that count for one run, key by key. What the run is told comes first,
then what the environment says, what is stored, and the default. The first of these that has something
for a setting decides about it, and about no other setting. No bound is checked again on the way.
-/

namespace MarkdownIntake.Settings

open MarkdownIntake.Json MarkdownIntake.Number MarkdownIntake.Storage

/-- What a run is told about a setting. An empty text tells nothing; yes, no and any number do. -/
def Overrides.said? (overrides : Overrides) : Key → Option Value
  | .spaceId => (overrides.spaceId.filter (!·.isEmpty)).map .str
  | .environmentId => (overrides.environmentId.filter (!·.isEmpty)).map .str
  | .contentType => (overrides.contentType.filter (!·.isEmpty)).map .str
  | .locale => (overrides.locale.filter (!·.isEmpty)).map .str
  | .publish => overrides.publish.map .bool
  | .format => (overrides.format.filter (!·.isEmpty)).map .str
  | .timeout => overrides.timeout.map .real
  | _ => none

def Key.variableName? : Key → Option String
  | .spaceId => some spaceVariable
  | .environmentId => some environmentVariable
  | _ => none

def Key.saidBy? (key : Key) (environment : Environment) : Option Value :=
  key.variableName?.bind fun name => (environment.nonempty? name).map .str

theorem Key.saidBy?_congr {key : Key} {environment other : Environment}
    (h : ∀ name ∈ key.variableName?, environment.get? name = other.get? name) :
    key.saidBy? environment = key.saidBy? other := by
  unfold saidBy?
  cases hname : key.variableName? with
  | none => rfl
  | some name => simp [Environment.nonempty?, h name hname]

/-! ### One setting -/

theorem Overrides.eq_of_format? {overrides : Overrides} {format? : Option String}
    (h : overrides.format? = .ok format?) : format? = overrides.format.filter (!·.isEmpty) := by
  unfold Overrides.format? at h
  split at h
  . next hgiven => rw [hgiven, Except.ok.inj h]
  . next format hgiven =>
    split at h
    . rw [hgiven, Except.ok.inj h]
    . cases h

theorem Overrides.format?_of_not_knowsFormat {overrides : Overrides} (h : ¬ overrides.KnowsFormat) :
    ∃ name ∈ overrides.format, name ≠ "" ∧ name ∉ formats
      ∧ overrides.format? = .error { format := name } := by
  unfold Overrides.KnowsFormat at h
  push Not at h
  obtain ⟨name, hname, hempty, hformats⟩ := h
  have hfilter : overrides.format.filter (!·.isEmpty) = some name := by
    rw [Option.mem_def] at hname
    simp [hname, hempty]
  exact ⟨name, hname, hempty, hformats, by simp [Overrides.format?, hfilter, hformats]⟩

section

variable {settings result : Settings} {environment : Environment} {overrides : Overrides}

theorem get_of_effective (h : settings.effective environment overrides = .ok result) (key : Key) :
    result.get key
      =
    ((overrides.said? key).or (key.saidBy? environment)).getD (settings.get key) := by
  cases hformat : overrides.format? with
  | error error =>
    rw [effective, hformat] at h
    cases h
  | ok format? =>
    have hgiven := Overrides.eq_of_format? hformat
    rw [effective, hformat] at h
    cases h
    subst hgiven
    cases key
    case spaceId =>
      simp only [get, Overrides.said?, Key.saidBy?, Key.variableName?, Option.bind_some]
      cases overrides.spaceId.filter (!·.isEmpty) <;> cases environment.nonempty? spaceVariable <;> rfl
    case environmentId =>
      simp only [get, Overrides.said?, Key.saidBy?, Key.variableName?, Option.bind_some, given,
        Environment.nonempty?]
      cases overrides.environmentId.filter (!·.isEmpty) <;>
        cases (environment.get? environmentVariable).filter (!·.isEmpty) <;> rfl
    case contentType =>
      simp only [get, Overrides.said?, given]
      cases overrides.contentType.filter (!·.isEmpty) <;> rfl
    case locale =>
      simp only [get, Overrides.said?, given]
      cases overrides.locale.filter (!·.isEmpty) <;> rfl
    case publish =>
      simp only [get, Overrides.said?]
      cases overrides.publish <;> rfl
    case timeout =>
      simp only [get, Overrides.said?]
      cases overrides.timeout <;> rfl
    case format =>
      simp only [get, Overrides.said?]
      cases overrides.format.filter (!·.isEmpty) <;> rfl
    all_goals rfl

theorem effective_of_not_knowsFormat (settings : Settings) (environment : Environment)
    (h : ¬ overrides.KnowsFormat) :
    ∃ name ∈ overrides.format, name ≠ "" ∧ name ∉ formats
      ∧ settings.effective environment overrides = .error { format := name } := by
  obtain ⟨name, hname, hempty, hformats, hformat⟩ := Overrides.format?_of_not_knowsFormat h
  exact ⟨name, hname, hempty, hformats, by rw [effective, hformat]; rfl⟩

theorem get_congr_of_effective {other : Settings} {environment' : Environment} {overrides' : Overrides}
    (h : settings.effective environment overrides = .ok result)
    (hother : settings.effective environment' overrides' = .ok other) {key : Key}
    (hsaid : overrides'.said? key = overrides.said? key)
    (hvariable : key.saidBy? environment' = key.saidBy? environment) : other.get key = result.get key := by
  rw [get_of_effective h, get_of_effective hother, hsaid, hvariable]

end

/-! ### All settings -/

/-- What comes of the stored settings in an environment when a run is told something. -/
structure Layered (format : Format) (folder : Folder) (files : Files) (stored : Settings)
    (environment : Environment) (overrides : Overrides) : Prop where
  /-- Only the name of a format can be refused: one that is given, not empty, and not known. -/
  refused_iff : ∀ failure,
    ((Operation.effective overrides).run format folder environment files).1 = .error failure ↔
      ∃ name, overrides.format = some name ∧ name ≠ "" ∧ name ∉ formats
        ∧ failure = .unknownFormat { format := name }
  settled : (∀ name ∈ overrides.format, name = "" ∨ name ∈ formats) →
    ∃ result,
      ((Operation.effective overrides).run format folder environment files).1 = .ok (.settings result)
        ∧ ∀ key, result.get key
          =
        ((overrides.said? key).or (key.saidBy? environment)).getD (stored.get key)
  fromFile : ∀ key, stored.get key
    =
  (storedValue? format folder files key).getD (({} : Settings).get key)
  overridesApart : ∀ changed (others : Overrides) result other,
    (∀ key, key ≠ changed → others.said? key = overrides.said? key) →
    stored.effective environment overrides = .ok result →
    stored.effective environment others = .ok other →
      ∀ key, key ≠ changed → other.get key = result.get key
  variablesApart : ∀ changed (others : Environment) result other,
    (∀ name, name ≠ changed → others.get? name = environment.get? name) →
    stored.effective environment overrides = .ok result →
    stored.effective others overrides = .ok other →
      ∀ key, key.variableName? ≠ some changed → other.get key = result.get key
  untouched : ((Operation.effective overrides).run format folder environment files).2 = files

section

variable {format : Format} {folder : Folder} {files : Files} {stored : Settings}

theorem run_effective (h : load format folder files = .ok stored) (environment : Environment)
    (overrides : Overrides) :
    (Operation.effective overrides).run format folder environment files
      =
    (((stored.effective environment overrides).mapError .unknownFormat).map .settings, files) := by
  simp only [Operation.run, Operation.effective?, h]
  cases hresult : stored.effective environment overrides <;>
    simp [hresult, bind, Except.bind, Except.mapError, Except.map, pure, Except.pure]

theorem effective_layered (h : load format folder files = .ok stored) (environment : Environment)
    (overrides : Overrides) : Layered format folder files stored environment overrides := by
  have hrun := run_effective h environment overrides
  exact {
    refused_iff := by
      intro failure
      rw [hrun]
      by_cases hknows : overrides.KnowsFormat
      . obtain ⟨result, hresult⟩ := exists_effective stored environment hknows
        rw [hresult]
        refine ⟨nofun, ?_⟩
        rintro ⟨name, hname, hempty, hformats, -⟩
        exact absurd (hknows name hname) (by simp [hempty, hformats])
      . obtain ⟨name, hname, hempty, hformats, hresult⟩ :=
          effective_of_not_knowsFormat stored environment hknows
        rw [hresult]
        refine ⟨fun hfailure => ⟨name, hname, hempty, hformats, (Except.error.inj hfailure).symm⟩, ?_⟩
        rintro ⟨other, hother, -, -, rfl⟩
        rw [Option.mem_def, hother, Option.some.injEq] at hname
        rw [hname]
        rfl
    settled := by
      intro hknows
      obtain ⟨result, hresult⟩ := exists_effective stored environment hknows
      exact ⟨result, by rw [hrun, hresult]; rfl, get_of_effective hresult⟩
    fromFile := get_of_load h
    overridesApart := fun _ _ _ _ hsame hresult hother key hkey =>
      get_congr_of_effective hresult hother (hsame key hkey) rfl
    variablesApart := fun _ _ _ _ hsame hresult hother key hkey =>
      get_congr_of_effective hresult hother rfl
        (Key.saidBy?_congr fun name hname => hsame name fun heq => hkey (heq ▸ hname))
    untouched := by rw [hrun] }

def localeFiles : Files :=
  ({} : Files).write (Folder.settingsFile ⟨{}⟩) "contentful:\n  space_id: abc\n  locale: de\n"

theorem effective_layered_emptyTexts :
    let environment : Environment :=
      { entries := [("CONTENTFUL_SPACE_ID", "def"), ("CONTENTFUL_ENVIRONMENT_ID", "")] }
    let overrides : Overrides :=
      { spaceId := some "", publish := some false, format := some "json", timeout := some (.ofInt 0) }
    load yaml ⟨{}⟩ localeFiles = .ok { entry.spaceId := "abc", entry.locale := "de" }
      ∧ ∃ result,
        ((Operation.effective overrides).run yaml ⟨{}⟩ environment localeFiles).1 = .ok (.settings result)
          ∧ result.get .spaceId = .str "def" ∧ result.get .environmentId = .str "master"
          ∧ result.get .locale = .str "de" ∧ result.get .publish = .bool false
          ∧ result.get .format = .str "json" ∧ result.get .timeout = .real (.ofInt 0)
          ∧ result.get .color = .bool true := by
  intro environment overrides
  have hload : load yaml ⟨{}⟩ localeFiles = .ok { entry.spaceId := "abc", entry.locale := "de" } := by
    decide +kernel
  have hlayered := effective_layered hload environment overrides
  obtain ⟨result, hresult, hget⟩ := hlayered.settled (by simp [overrides, formats])
  refine ⟨hload, result, hresult, ?_, ?_, ?_, ?_, ?_, ?_, ?_⟩
  all_goals
    rw [hget]
    rfl

/-! ### Bounds -/

/--
The settings that count keep the bounds of the line lengths, since no run is told about them. The other
two are not checked: a time limit is as good as the one that is given, and a format that is stored is
taken over whatever its name is.
-/
theorem effective_valid_iff (h : load format folder files = .ok stored) (environment : Environment)
    (overrides : Overrides) :
    ((∃ name ∈ overrides.format, name ≠ "" ∧ name ∉ formats)
        ∧ ∃ error, stored.effective environment overrides = .error error)
      ∨ ∃ result, stored.effective environment overrides = .ok result
        ∧ leastMaxLineLength ≤ result.limits.maxLineLength
        ∧ leastLongLineLimit ≤ result.limits.longLineLimit
        ∧ (result.timeout.isPositive ↔ ∀ seconds ∈ overrides.timeout, seconds.isPositive)
        ∧ (result.output.format ∈ formats ↔
          (∃ name ∈ overrides.format, name ≠ "") ∨ stored.output.format ∈ formats) := by
  by_cases hknows : overrides.KnowsFormat
  . obtain ⟨result, hresult⟩ := exists_effective stored environment hknows
    have hvalid := valid_of_load h
    obtain ⟨hlimits, htimeout, -, -⟩ := of_effective hresult
    refine .inr ⟨result, hresult, hlimits ▸ hvalid.maxLineLength, hlimits ▸ hvalid.longLineLimit, ?_, ?_⟩
    . rw [htimeout]
      cases overrides.timeout with
      | none => simpa using hvalid.timeout
      | some seconds => simp
    . have hformat := get_of_effective hresult .format
      simp only [get, Overrides.said?, Key.saidBy?, Key.variableName?] at hformat
      cases hgiven : overrides.format.filter (!·.isEmpty) with
      | none =>
        have hname : result.output.format = stored.output.format := by simpa [hgiven] using hformat
        rw [Option.filter_eq_none_iff] at hgiven
        have hempty : ¬ ∃ name ∈ overrides.format, name ≠ "" := by simpa using hgiven
        rw [hname]
        exact ⟨.inr, fun hor => hor.resolve_left hempty⟩
      | some name =>
        have hname : result.output.format = name := by simpa [hgiven] using hformat
        rw [Option.filter_eq_some_iff] at hgiven
        have hempty : name ≠ "" := by simpa using hgiven.2
        have hformats : name ∈ formats := (hknows name hgiven.1).resolve_left hempty
        simp only [hname, hformats, true_iff]
        exact .inl ⟨name, hgiven.1, hempty⟩
  . obtain ⟨name, hname, hempty, hformats, hresult⟩ :=
      effective_of_not_knowsFormat stored environment hknows
    exact .inl ⟨⟨name, hname, hempty, hformats⟩, _, hresult⟩

end

def unknownFormatFiles : Files :=
  ({} : Files).write (Folder.settingsFile ⟨{}⟩) "output:\n  format: xml\n"

theorem load_unknownFormatFiles : load yaml ⟨{}⟩ unknownFormatFiles = .ok { output.format := "xml" } := by
  decide +kernel

theorem effective_valid_iff_zeroSeconds :
    load yaml ⟨{}⟩ unknownFormatFiles = .ok { output.format := "xml" }
      ∧ ∃ result, ({ output.format := "xml" } : Settings).effective {}
          { format := some "json", timeout := some (.ofInt 0) } = .ok result
        ∧ result.output.format ∈ formats ∧ ¬ result.timeout.isPositive := by
  refine ⟨load_unknownFormatFiles, ?_⟩
  rcases effective_valid_iff load_unknownFormatFiles {}
      { format := some "json", timeout := some (.ofInt 0) } with
    ⟨⟨name, hname, -, hformats⟩, -⟩ | ⟨result, hresult, -, -, htimeout, hformat⟩
  . cases hname
    exact absurd hformats (by decide)
  . refine ⟨result, hresult, hformat.mpr (.inl ⟨"json", rfl, by decide⟩), ?_⟩
    rw [htimeout]
    simp only [Option.mem_def, Option.some.injEq, forall_eq']
    decide

/--
The name of a format that is stored counts although it is not known, and so does a time limit below
zero that a run is told.
-/
theorem effective_outside_bounds :
    load yaml ⟨{}⟩ unknownFormatFiles = .ok { output.format := "xml" }
      ∧ ({ output.format := "xml" } : Settings).effective {} {} = .ok { output.format := "xml" }
      ∧ "xml" ∉ formats
      ∧ ({} : Settings).effective {} { timeout := some (.ofInt (-1)) } = .ok { timeout := .ofInt (-1) }
      ∧ ¬ ({ timeout := .ofInt (-1) } : Settings).Valid :=
  ⟨load_unknownFormatFiles, by decide, by decide, by decide, by decide⟩

end MarkdownIntake.Settings
