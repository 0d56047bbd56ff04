import MarkdownIntake.Proofs.Settings.Stored

/-!
This module contains a check that YAML keeps the record of some settings: the record is written and
read again, and the members of what was read are compared with the settings.
-/

namespace MarkdownIntake

open MarkdownIntake.Json

namespace Yaml.Value

def isScalar : Yaml.Value → Json.Value → Bool
  | .null, .null => true
  | .bool read, .bool value => read = value
  | .int read, .int value => read = value
  | .real read, .real value => read = value
  | .text read, .str value => read = value
  | _, _ => false

theorem eq_ofJson_of_isScalar {read : Yaml.Value} {value : Json.Value} (h : read.isScalar value) :
    read = .ofJson value := by
  cases read <;> cases value <;> simp_all [isScalar]

end Yaml.Value

namespace Settings

/-! ### A record among what was read -/

def showsPart (valueOf : Key → Value) (entries : List (Yaml.Value × Yaml.Value)) (part : Section) :
    Bool :=
  match Yaml.Value.entry? part.name entries with
  | some (.map members) =>
    part.keys.all fun key =>
      (Yaml.Value.entry? key.name members).any (Yaml.Value.isScalar · (valueOf key))
  | _ => false

def showsRecord (valueOf : Key → Value) : Except Yaml.Error Yaml.Value → Bool
  | .ok (.map entries) =>
    Yaml.Value.hasTextKeys entries && Section.all.all (showsPart valueOf entries)
  | _ => false

theorem members_of_showsPart {valueOf : Key → Value} {entries : List (Yaml.Value × Yaml.Value)}
    {part : Section} (h : showsPart valueOf entries part) :
    ∃ members, Yaml.Value.entry? part.name entries = some (.map members)
      ∧ ∀ key ∈ part.keys, Yaml.Value.entry? key.name members = some (.ofJson (valueOf key)) := by
  unfold showsPart at h
  split at h
  . next members hpart =>
    refine ⟨members, hpart, ?_⟩
    intro key hkey
    have hshown := List.all_eq_true.mp h key hkey
    rw [Option.any_eq_true] at hshown
    obtain ⟨read, hread, hscalar⟩ := hshown
    rw [hread, Yaml.Value.eq_ofJson_of_isScalar hscalar]
  . cases h

theorem holdsRecord_of_showsRecord {valueOf : Key → Value} {result : Except Yaml.Error Yaml.Value}
    (h : showsRecord valueOf result) : ∃ read, result = .ok read ∧ HoldsRecord read valueOf := by
  unfold showsRecord at h
  split at h
  . next entries =>
    rw [Bool.and_eq_true, List.all_eq_true] at h
    refine ⟨_, rfl, entries, rfl, h.1, ?_⟩
    intro part
    exact members_of_showsPart (h.2 part (by cases part <;> decide))
  . cases h

/-! ### Settings in YAML -/

def sortedRecord (valueOf : Key → Value) : Value :=
  .obj
    [ ("contentful", .obj
        [ ("content_type", valueOf .contentType), ("environment_id", valueOf .environmentId),
          ("locale", valueOf .locale), ("publish", valueOf .publish), ("space_id", valueOf .spaceId) ]),
      ("fetch", .obj [("timeout", valueOf .timeout)]),
      ("output", .obj
        [ ("color", valueOf .color), ("directory", valueOf .directory),
          ("errors_file", valueOf .errorsFile), ("format", valueOf .format),
          ("import_file", valueOf .importFile), ("verbose", valueOf .verbose) ]),
      ("validation", .obj
        [ ("long_line_limit", valueOf .longLineLimit),
          ("max_line_length", valueOf .maxLineLength) ]) ]

theorem sorted_toJson (settings : Settings) :
    Yaml.sorted settings.toJson = sortedRecord settings.get := by
  cases hspace : settings.entry.spaceId
  all_goals
    simp [toJson, record, sortedRecord, Section.all, Section.keys, Section.name, Key.name,
      Yaml.sorted, Yaml.sortedMembers, List.mergeSort, get, hspace, Value.ofOption]

theorem yaml_parse (text : String) : yaml.parse text = Yaml.parse text :=
  rfl

theorem yaml_render (value : Value) : yaml.render value = Yaml.render value :=
  rfl

theorem parse_render (settings : Settings) :
    yaml.parse (yaml.render settings.toJson)
      =
    Yaml.parseCharacters
      ((({} : Yaml.Page).value none false (sortedRecord settings.get)).goTo 0).written.reverse := by
  rw [yaml_render, yaml_parse, Yaml.parse, Yaml.render, String.toList_ofList, sorted_toJson]

/-- Whether YAML writes the record of these settings and shows it again when it is read. -/
def isKept (settings : Settings) : Bool :=
  yaml.writes settings.toJson
    && showsRecord settings.get (Yaml.parseCharacters
      ((({} : Yaml.Page).value none false (sortedRecord settings.get)).goTo 0).written.reverse)

theorem keepsSettings_of_isKept {settings : Settings} (h : settings.isKept) :
    yaml.KeepsSettings settings := by
  rw [isKept, Bool.and_eq_true, ← parse_render] at h
  exact ⟨h.1, holdsRecord_of_showsRecord h.2⟩

end Settings

end MarkdownIntake
