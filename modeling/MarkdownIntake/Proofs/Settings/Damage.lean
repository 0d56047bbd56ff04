import MarkdownIntake.Proofs.Settings.Layer
import MarkdownIntake.Proofs.Yaml.Meaning

/-!
This module contains what becomes of the settings and of the token when their files are damaged. A text
that is not well formed, and faulty settings, count as missing. A text whose value has no names, and one in
which a value is not what it is said to be, are not loaded at all.
-/

namespace MarkdownIntake.Settings

open MarkdownIntake.Storage

inductive Breaks (format : Format) (text : String) : LoadError → Prop where
  | notNamed {value : Yaml.Value} (h : format.parse text = .ok value) (hfull : ¬ value.isEmpty)
    (hshape : ∀ entries, value = .map entries → ¬ Yaml.Value.hasTextKeys entries) :
    Breaks format text .notNamed
  | wrongKind {error : Yaml.Error} (h : format.parse text = .error error) (hne : error ≠ .malformed) :
    Breaks format text (.wrongKind error)

section

variable {format : Format} {folder : Folder} {files : Files} {text : String} {error : LoadError}

theorem entriesOf_eq_error_iff : entriesOf format text = .error error ↔ Breaks format text error := by
  constructor
  . intro h
    unfold entriesOf at h
    split at h
    . cases h
    . next cause hne hparse =>
      cases h
      exact .wrongKind hparse hne
    . next value hparse =>
      split at h
      . cases h
      . next hfull =>
        split at h
        . split at h
          . cases h
          . next entries hkeys =>
            cases h
            exact .notNamed hparse hfull (by rintro _ ⟨⟩; exact hkeys)
        . next hmap =>
          cases h
          exact .notNamed hparse hfull fun entries heq => absurd heq (hmap entries)
  . rintro (⟨hparse, hfull, hshape⟩ | ⟨hparse, hne⟩)
    . rw [entriesOf, hparse]
      dsimp only
      rw [if_neg hfull]
      split
      . rw [if_neg (hshape _ rfl)]
      . rfl
    . rw [entriesOf, hparse]
      split
      . next heq => cases heq; exact absurd rfl hne
      . next heq => cases heq; rfl
      . next heq => cases heq

theorem ofText_eq_error_iff : ofText format text = .error error ↔ Breaks format text error := by
  rw [← entriesOf_eq_error_iff, ofText]
  cases entriesOf format text with
  | error cause => simp [bind, Except.bind]
  | ok entries? => cases entries? <;> simp [bind, Except.bind, pure, Except.pure]

theorem tokenOfText_eq_error_iff : tokenOfText format text = .error error ↔ Breaks format text error := by
  rw [← entriesOf_eq_error_iff, tokenOfText]
  cases entriesOf format text with
  | error cause => simp [bind, Except.bind]
  | ok entries? => simp [bind, Except.bind, pure, Except.pure]

theorem load_eq_error_iff : load format folder files = .error error ↔
    ∃ text, files.read? folder.settingsFile = some text ∧ Breaks format text error := by
  unfold load
  cases files.read? folder.settingsFile with
  | none => simp
  | some text => simp [ofText_eq_error_iff]

theorem loadToken_eq_error_iff {environment : Environment} :
    loadToken format folder files environment = .error error ↔
      ∃ text, files.read? folder.credentialsFile = some text ∧ Breaks format text error := by
  unfold loadToken
  cases files.read? folder.credentialsFile with
  | none => simp [bind, Except.bind, pure, Except.pure]
  | some text =>
    simp only [Option.some.injEq, exists_eq_left', ← tokenOfText_eq_error_iff]
    cases tokenOfText format text <;> simp [bind, Except.bind, pure, Except.pure]

end

/-- What the loading of two files comes to, whatever their texts are. -/
structure Loading (format : Format) (folder : Folder) (files : Files) : Prop where
  settings_error_iff : ∀ error, load format folder files = .error error ↔
    ∃ text, files.read? folder.settingsFile = some text ∧ Breaks format text error
  token_error_iff : ∀ environment error, loadToken format folder files environment = .error error ↔
    ∃ text, files.read? folder.credentialsFile = some text ∧ Breaks format text error
  settings : ∀ settings, load format folder files = .ok settings →
    settings.Valid
      ∧ (acceptedEntries? format folder files = none ∧ settings = {}
        ∨ ∃ entries, acceptedEntries? format folder files = some entries
          ∧ ofEntries entries = .ok settings)

theorem loading_damaged (format : Format) (folder : Folder) (files : Files) :
    Loading format folder files where
  settings_error_iff _ := load_eq_error_iff
  token_error_iff _ _ := loadToken_eq_error_iff
  settings _ h := ⟨valid_of_load h, load_cases h⟩

/-- Without a mark for a tag, a text breaks the loading in the second way only if something is too large. -/
theorem eq_tooLarge_of_breaks {text : String} {error : Yaml.Error}
    (h : Breaks yaml text (.wrongKind error)) (hmark : '!' ∉ text.toList) : error = .tooLarge := by
  cases h with
  | wrongKind hparse hne =>
    have hsound := Yaml.sound_parse hmark error hparse
    cases error with
    | malformed => exact absurd rfl hne
    | tooLarge => rfl
    | _ => exact absurd trivial hsound

example : ofText yaml "x: !!bool maybe\n" = .error (.wrongKind .unknownWord) := by
  decide +kernel

def listFiles : Files :=
  (({} : Files).write (Folder.settingsFile ⟨{}⟩) "- a\n").write (Folder.credentialsFile ⟨{}⟩) "- a\n"

theorem listFiles_not_loaded :
    load yaml ⟨{}⟩ listFiles = .error .notNamed ∧ loadToken yaml ⟨{}⟩ listFiles {} = .error .notNamed := by
  decide +kernel

end MarkdownIntake.Settings
